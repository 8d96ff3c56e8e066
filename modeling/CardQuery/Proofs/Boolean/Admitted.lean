import CardQuery.Proofs.Boolean.Answer
import CardQuery.Proofs.Boolean.Moving

/-!
A condition that always holds and is written besides, at one place. It makes no difference where it is
joined by `and` to what is written before it, or to what is written next.
-/

namespace CardQuery

def Reading.writes {α : Type} (r : Reading α) (negated : Bool) (rest : Bool → Bool) : Bool :=
  match r with
  | condition _ => true
  | everything => rest negated
  | invalid => !negated || rest false

namespace Builder

open Formula (Ended Expects verdict? ended_term ended_closing expects_opening)

variable {α : Type} {read : Token → Reading α} {last : Reading α}

def Settled (b : Builder α) : Prop := b.invalid = false → b.needsConnective = true → Ended b.pieces

lemma Settled.push {b : Builder α} (h : b.Settled) (r : Reading α) : (b.push r).Settled := by
  cases hi : b.invalid with
  | true => simpa [Builder.push, hi] using h
  | false =>
    cases r with
    | condition a =>
      intro _ _
      simpa [Builder.push, hi, emit] using ended_term (b.pieces ++ b.lead) a
    | everything => simpa [Builder.push, hi] using h
    | invalid =>
      cases hn : b.negateNext with
      | true => simpa [Builder.push, hi, hn, Settled] using h
      | false => simp [Settled, Builder.push, hi, hn]

lemma settled_takeAll (ts : List Token) : (empty.takeAll read ts).Settled := by
  induction ts using List.reverseRecOn with
  | nil => simp [Settled, empty]
  | append_singleton ts t ih =>
    rw [takeAll_append]
    cases t with
    | minus => exact ih
    | or => exact ih
    | opening => simp [Settled, take, openGroup]
    | closing =>
      intro hv _
      have hi : (empty.takeAll read ts).invalid = false := valid_of_takeAll hv
      have hpieces : ((empty.takeAll read ts).takeAll read [.closing]).pieces =
          (empty.takeAll read ts).pieces ++ [.closing] := by
        simp [take, closeGroup, hi]
      rw [hpieces]
      exact ended_closing _
    | command key value => exact ih.push _
    | text words => exact ih.push _

lemma expects_takeAll {ts : List Token} (hv : (empty.takeAll read ts).invalid = false)
    (hn : (empty.takeAll read ts).negateNext = false) :
    Expects ((empty.takeAll read ts).pieces ++ (empty.takeAll read ts).lead) := by
  have hsettled : (empty.takeAll read ts).Settled := settled_takeAll ts
  have hexpectant : (empty.takeAll read ts).Expectant := expectant_takeAll ts
  generalize empty.takeAll read ts = b at *
  cases hneeds : b.needsConnective with
  | true =>
    have hlead : b.lead = [if b.disjoinNext then .or else .and] := by simp [lead, hneeds, hn]
    rw [hlead]
    apply (hsettled hv hneeds).expects
    cases b.disjoinNext with
    | true => exact Or.inr rfl
    | false => exact Or.inl rfl
  | false =>
    have hlead : b.lead = [] := by simp [lead, hneeds, hn]
    rw [hlead, List.append_nil]
    rcases hexpectant hv hneeds with hnil | ⟨ps, hps⟩ | hdead
    · rw [hnil]
      exact Or.inr ⟨[], .start, rfl, fun _ => rfl⟩
    · rw [hps]
      exact expects_opening ps
    · exact Or.inl hdead

variable (read last) in
def writesNext (negated : Bool) : List Token → Bool
  | [] => last.writes negated fun _ => false
  | .minus :: ts => writesNext true ts
  | .or :: _ => false
  | .opening :: _ => true
  | .closing :: _ => false
  | t :: ts => (read t).writes negated fun negated => writesNext negated ts

lemma writesNext_of_isTerm {t : Token} (ht : t.isTerm) (negated : Bool) (ts : List Token) :
    writesNext read last negated (t :: ts) =
      (read t).writes negated fun negated => writesNext read last negated ts := by
  cases t with
  | command key value => rfl
  | text words => rfl
  | _ => cases ht

variable (read last) in
/-- A condition may be added where it is joined by `and` to what is written before it, or to what is
written next. -/
def Admits (b : Builder α) (ts : List Token) : Prop :=
  b.needsConnective = true ∧ b.disjoinNext = false ∨
    (b.disjoinNext = true → b.needsConnective = true) ∧ writesNext read last false ts

instance (b : Builder α) (ts : List Token) : Decidable (Admits read last b ts) :=
  inferInstanceAs (Decidable (_ ∨ _))

def finish (read : Token → Reading α) (last : Reading α) (b : Builder α) (ts : List Token) : Builder α :=
  (b.takeAll read ts).push last

lemma finish_cons (b : Builder α) (t : Token) (ts : List Token) :
    b.finish read last (t :: ts) = (b.take read t).finish read last ts := rfl

lemma finish_behind (b : Builder α) (ps : List (Piece α)) (ts : List Token) :
    (b.behind ps).finish read last ts = (b.finish read last ts).behind ps := by
  rw [finish, takeAll_behind, push_behind]
  rfl

lemma valid_of_finish {b : Builder α} {ts : List Token} (h : (b.finish read last ts).invalid = false) :
    b.invalid = false :=
  valid_of_takeAll (valid_of_push h)

def Parted (b : Builder α) (a : α) (c c' : Builder α) : Prop :=
  ∃ m : Builder α, c = m.behind (b.pieces ++ b.lead) ∧
    c' = m.behind ((b.after [.term a]).pieces ++ [.and])

lemma Parted.finish {b c c' : Builder α} {a : α} (h : Parted b a c c') (ts : List Token) :
    Parted b a (c.finish read last ts) (c'.finish read last ts) := by
  obtain ⟨m, rfl, rfl⟩ := h
  exact ⟨m.finish read last ts, finish_behind .., finish_behind ..⟩

section Inserted

variable {b : Builder α} (hb : b.Ready) (hn : b.negateNext = false) {negateNext : Bool}
include hb hn

lemma parted_emit (a : α) (p : Piece α) : Parted b a ((b.marked negateNext).emit p)
    (((b.after [.term a]).marked negateNext).emit p) :=
  ⟨opened negateNext p, emit_waiting hb hn _ _, emit_after_waiting _ _ _⟩

lemma parted_openGroup (a : α) : Parted b a (b.marked negateNext).openGroup
    ((b.after [.term a]).marked negateNext).openGroup := by
  have hv : (b.marked negateNext).invalid = false := hb.valid
  obtain ⟨m, hm, hm'⟩ := @parted_emit _ b hb hn negateNext a .opening
  refine ⟨{ m with needsConnective := false }, ?_, ?_⟩
  · simp only [openGroup, hv, Bool.false_eq_true, if_false, hm]
    rfl
  · rw [openGroup, if_neg (by simp [marked, after]), hm']
    rfl

lemma parted_push (a : α) {r : Reading α} {rest : Bool → Bool} (hw : r.writes negateNext rest)
    (hv : ((b.marked negateNext).push r).invalid = false) :
    Parted b a ((b.marked negateNext).push r) (((b.after [.term a]).marked negateNext).push r) ∨
      ∃ negated, rest negated ∧ (b.marked negateNext).push r = b.marked negated ∧
        ((b.after [.term a]).marked negateNext).push r = (b.after [.term a]).marked negated := by
  have hi : (b.marked negateNext).invalid = false := hb.valid
  have hi' : ((b.after [.term a]).marked negateNext).invalid = false := rfl
  cases r with
  | condition c =>
    have hparted := @parted_emit _ b hb hn negateNext a (.term c)
    simp only [push, hi, hi', Bool.false_eq_true, if_false]
    exact Or.inl hparted
  | everything => exact Or.inr ⟨negateNext, hw, by simp [push], by simp [push]⟩
  | invalid =>
    cases negateNext with
    | false => simp [push, marked, hb.valid] at hv
    | true =>
      have hrest : rest false := by simpa [Reading.writes] using hw
      exact Or.inr ⟨false, hrest, by simp [push, marked, hb.valid], by simp [push, marked, after]⟩

lemma parted_finish (a : α) {ts : List Token} (hw : writesNext read last negateNext ts)
    (hv : ((b.marked negateNext).finish read last ts).invalid = false) :
    Parted b a ((b.marked negateNext).finish read last ts)
      (((b.after [.term a]).marked negateNext).finish read last ts) := by
  induction ts generalizing negateNext with
  | nil =>
    rcases parted_push hb hn a hw hv with hparted | ⟨_, hnever, -⟩
    · exact hparted
    · cases hnever
  | cons t ts ih =>
    have hterm (ht : t.isTerm) : Parted b a ((b.marked negateNext).finish read last (t :: ts))
        (((b.after [.term a]).marked negateNext).finish read last (t :: ts)) := by
      rw [writesNext_of_isTerm ht] at hw
      simp only [finish, takeAll_cons, take_of_isTerm ht] at hv ⊢
      rcases parted_push hb hn a hw (valid_of_finish hv) with hparted | ⟨negated, hw, hpush, hpush'⟩
      · exact hparted.finish ts
      · rw [hpush] at hv ⊢
        rw [hpush']
        exact ih hw hv
    cases t with
    | minus => exact ih hw hv
    | or => cases hw
    | opening => exact (parted_openGroup hb hn a).finish ts
    | closing => cases hw
    | command key value => exact hterm rfl
    | text words => exact hterm rfl

variable {test : α → Option Bool} {a : α} (ha : test a = some true)
include ha

lemma verdict?_behind (hneeds : b.needsConnective = true) (hdisjoin : b.disjoinNext = false)
    (hended : Ended b.pieces) (ts : List Token) :
    verdict? test ((b.after [.term a]).finish read last ts).pieces =
      verdict? test (b.finish read last ts).pieces := by
  have hb' : b = { b with pieces := [] }.behind b.pieces := by simp [behind]
  have hafter : b.after [.term a] =
      { b with pieces := [] }.behind (b.pieces ++ [Piece.and, Piece.term a]) := by
    simp [after, behind, lead, hneeds, hdisjoin, hn, hb.valid]
  have hfinish : (b.finish read last ts).pieces =
      b.pieces ++ (finish read last { b with pieces := [] } ts).pieces := by
    conv_lhs => rw [hb', finish_behind]
    rfl
  rw [hafter, finish_behind, hfinish]
  simpa [behind] using hended.verdict? ha (finish read last { b with pieces := [] } ts).pieces

lemma verdict?_before (hexpects : Expects (b.pieces ++ b.lead)) {ts : List Token}
    (hw : writesNext read last false ts) (hv : (b.finish read last ts).invalid = false) :
    verdict? test ((b.after [.term a]).finish read last ts).pieces =
      verdict? test (b.finish read last ts).pieces := by
  have hmarked : b.marked false = b := by
    rw [← hn]
    rfl
  rw [← hmarked] at hv
  obtain ⟨m, hm, hm'⟩ := parted_finish hb hn a hw hv
  rw [hmarked] at hm
  have hafter : (b.after [.term a]).finish read last ts =
      m.behind ((b.after [.term a]).pieces ++ [.and]) := hm'
  rw [hm, hafter]
  simpa [behind, after] using hexpects.verdict? ha m.pieces

omit hb hn in
lemma verdict?_admitted {read' : Token → Reading α} {pre ts : List Token}
    (hn : (empty.takeAll read pre).negateNext = false)
    (hadmits : Admits read' last (empty.takeAll read pre) ts)
    (hv : ((empty.takeAll read pre).finish read' last ts).invalid = false) :
    verdict? test (((empty.takeAll read pre).push (.condition a)).finish read' last ts).pieces =
      verdict? test ((empty.takeAll read pre).finish read' last ts).pieces := by
  have hi : (empty.takeAll read pre).invalid = false := valid_of_finish hv
  have hpush (hb : (empty.takeAll read pre).Ready) :
      (empty.takeAll read pre).push (.condition a) = (empty.takeAll read pre).after [.term a] := by
    simp only [push, hi, Bool.false_eq_true, if_false, emit_eq hb]
  rcases hadmits with ⟨hneeds, hdisjoin⟩ | ⟨hconnective, hw⟩
  · have hb : (empty.takeAll read pre).Ready := ⟨hi, fun _ => hneeds⟩
    rw [hpush hb]
    exact verdict?_behind hb hn ha hneeds hdisjoin (settled_takeAll pre hi hneeds) ts
  · have hb : (empty.takeAll read pre).Ready := ⟨hi, hconnective⟩
    rw [hpush hb]
    exact verdict?_before hb hn ha (expects_takeAll hi hn) hw hv

end Inserted

end Builder

end CardQuery
