/-!
Wildcard patterns: runs, single characters and literals, matched against a whole text. All suffixes
of the text are answered in one pass over the pattern; `accepts_run_cons` and its companions say how
the answer for a text follows from shorter ones.
-/

namespace CardQuery

inductive Wild where
  | run
  | one
  | lit (c : Char)
  deriving DecidableEq, Repr

namespace Wild

structure Alphabet where
  free : Char → Bool
  same : Char → Char → Bool

def advance (admits : Char → Bool) : List Char → List Bool → List Bool
  | c :: s, _ :: b :: bs => (admits c && b) :: advance admits s (b :: bs)
  | _, _ => [false]

def skip (free : Char → Bool) : List Char → List Bool → List Bool
  | c :: s, b :: bs => match skip free s bs with
    | [] => [b]
    | r :: rs => (b || free c && r) :: r :: rs
  | _, bs => bs

def atEnd : List Char → List Bool
  | [] => [true]
  | _ :: s => false :: atEnd s

/-- Whether the pattern matches each suffix of `s`, the longest suffix first. -/
def answers (al : Alphabet) : List Wild → List Char → List Bool
  | [], s => atEnd s
  | run :: p, s => skip al.free s (answers al p s)
  | one :: p, s => advance al.free s (answers al p s)
  | lit c :: p, s => advance (al.same c) s (answers al p s)

def accepts (al : Alphabet) (p : List Wild) (s : List Char) : Bool :=
  (answers al p s).headD false

theorem advance_ne_nil (admits : Char → Bool) (s : List Char) (bs : List Bool) :
    advance admits s bs ≠ [] := by
  unfold advance
  split <;> simp

theorem skip_ne_nil (free : Char → Bool) (s : List Char) {bs : List Bool} (h : bs ≠ []) :
    skip free s bs ≠ [] := by
  unfold skip
  split
  · split <;> simp
  · exact h

theorem answers_ne_nil (al : Alphabet) (p : List Wild) (s : List Char) : answers al p s ≠ [] := by
  induction p with
  | nil => cases s <;> simp [answers, atEnd]
  | cons w p ih =>
    cases w with
    | run => exact skip_ne_nil _ _ ih
    | one => exact advance_ne_nil _ _ _
    | lit c => exact advance_ne_nil _ _ _

theorem advance_cons (admits : Char → Bool) (c : Char) (s : List Char) (b : Bool) {bs : List Bool}
    (h : bs ≠ []) :
    advance admits (c :: s) (b :: bs) = (admits c && bs.headD false) :: advance admits s bs := by
  cases bs with
  | nil => exact absurd rfl h
  | cons d ds => rfl

theorem skip_cons (free : Char → Bool) (c : Char) (s : List Char) (b : Bool) {bs : List Bool}
    (h : bs ≠ []) :
    skip free (c :: s) (b :: bs) =
      (b || free c && (skip free s bs).headD false) :: skip free s bs := by
  cases hs : skip free s bs with
  | nil => exact absurd hs (skip_ne_nil free s h)
  | cons r rs => simp [skip, hs]

theorem answers_cons (al : Alphabet) (p : List Wild) (c : Char) (s : List Char) :
    answers al p (c :: s) = accepts al p (c :: s) :: answers al p s := by
  induction p with
  | nil => rfl
  | cons w p ih =>
    have h := answers_ne_nil al p s
    cases w <;> simp only [accepts, answers] <;> rw [ih]
    · rw [skip_cons _ _ _ _ h]; rfl
    · rw [advance_cons _ _ _ _ h]; rfl
    · rw [advance_cons _ _ _ _ h]; rfl

variable (al : Alphabet) (p : List Wild) (c : Char) (s : List Char)

theorem accepts_nil_nil : accepts al [] [] = true := rfl

theorem accepts_nil_cons : accepts al [] (c :: s) = false := rfl

theorem accepts_run_nil : accepts al (run :: p) [] = accepts al p [] := rfl

theorem accepts_one_nil : accepts al (one :: p) [] = false := rfl

theorem accepts_lit_nil (d : Char) : accepts al (lit d :: p) [] = false := rfl

theorem accepts_run_cons : accepts al (run :: p) (c :: s) =
    (accepts al p (c :: s) || al.free c && accepts al (run :: p) s) := by
  show (skip al.free (c :: s) (answers al p (c :: s))).headD false = _
  rw [answers_cons, skip_cons _ _ _ _ (answers_ne_nil al p s)]
  rfl

theorem accepts_one_cons : accepts al (one :: p) (c :: s) = (al.free c && accepts al p s) := by
  show (advance al.free (c :: s) (answers al p (c :: s))).headD false = _
  rw [answers_cons, advance_cons _ _ _ _ (answers_ne_nil al p s)]
  rfl

theorem accepts_lit_cons (d : Char) :
    accepts al (lit d :: p) (c :: s) = (al.same d c && accepts al p s) := by
  show (advance (al.same d) (c :: s) (answers al p (c :: s))).headD false = _
  rw [answers_cons, advance_cons _ _ _ _ (answers_ne_nil al p s)]
  rfl

end Wild

end CardQuery
