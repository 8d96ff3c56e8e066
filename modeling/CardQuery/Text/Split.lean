namespace CardQuery.Text

def splitOn (sep : Char) : List Char → List (List Char)
  | [] => [[]]
  | c :: s =>
    if c = sep then [] :: splitOn sep s
    else match splitOn sep s with
      | [] => [[c]]
      | p :: ps => (c :: p) :: ps

def joinWith (sep : Char) (pieces : List (List Char)) : List Char :=
  List.intercalate [sep] pieces

theorem joinWith_cons (sep : Char) (p : List Char) {ps : List (List Char)} (h : ps ≠ []) :
    joinWith sep (p :: ps) = p ++ sep :: joinWith sep ps := by
  cases ps with
  | nil => exact absurd rfl h
  | cons q qs => simp [joinWith, List.intercalate, List.intersperse]

theorem splitOn_ne_nil (sep : Char) (s : List Char) : splitOn sep s ≠ [] := by
  cases s with
  | nil => simp [splitOn]
  | cons c s =>
    rw [splitOn]
    split
    · simp
    · split <;> simp

theorem joinWith_splitOn (sep : Char) (s : List Char) : joinWith sep (splitOn sep s) = s := by
  induction s with
  | nil => rfl
  | cons c s ih =>
    rw [splitOn]
    split
    · next hc => rw [joinWith_cons _ _ (splitOn_ne_nil sep s), ih, hc, List.nil_append]
    · split
      · next h => exact absurd h (splitOn_ne_nil sep s)
      · next p ps h =>
        rw [h] at ih
        cases ps with
        | nil => simpa [joinWith, List.intercalate] using ih
        | cons q qs =>
          rw [joinWith_cons _ _ (List.cons_ne_nil q qs)] at ih ⊢
          simpa using ih

theorem splitOn_of_notMem {sep : Char} {s : List Char} (h : sep ∉ s) : splitOn sep s = [s] := by
  induction s with
  | nil => rfl
  | cons c s ih =>
    simp only [List.mem_cons, not_or] at h
    simp [splitOn, Ne.symm h.1, ih h.2]

theorem splitOn_append_cons {sep : Char} {p : List Char} (h : sep ∉ p) (s : List Char) :
    splitOn sep (p ++ sep :: s) = p :: splitOn sep s := by
  induction p with
  | nil => simp [splitOn]
  | cons c p ih =>
    simp only [List.mem_cons, not_or] at h
    simp [splitOn, Ne.symm h.1, ih h.2]

theorem splitOn_joinWith {sep : Char} {ps : List (List Char)} (hne : ps ≠ [])
    (h : ∀ p ∈ ps, sep ∉ p) : splitOn sep (joinWith sep ps) = ps := by
  induction ps with
  | nil => exact absurd rfl hne
  | cons p ps ih =>
    have hp := List.forall_mem_cons.1 h
    cases ps with
    | nil => simpa [joinWith, List.intercalate] using splitOn_of_notMem hp.1
    | cons q qs =>
      rw [joinWith_cons _ _ (List.cons_ne_nil q qs), splitOn_append_cons hp.1,
        ih (List.cons_ne_nil q qs) hp.2]

theorem mem_joinWith {sep c : Char} {ps : List (List Char)} (h : c ∈ joinWith sep ps) :
    c = sep ∨ ∃ p ∈ ps, c ∈ p := by
  induction ps with
  | nil => simp [joinWith] at h
  | cons p ps ih =>
    by_cases hnil : ps = []
    · subst hnil
      exact Or.inr ⟨p, by simp, by simpa [joinWith, List.intercalate] using h⟩
    · rw [joinWith_cons _ _ hnil, List.mem_append, List.mem_cons] at h
      rcases h with h | rfl | h
      · exact Or.inr ⟨p, by simp, h⟩
      · exact Or.inl rfl
      · rcases ih h with h | ⟨q, hq, hc⟩
        · exact Or.inl h
        · exact Or.inr ⟨q, by simp [hq], hc⟩

def splitOnce (sep : Char) : List Char → Option (List Char × List Char)
  | [] => none
  | c :: s =>
    if c = sep then some ([], s) else (splitOnce sep s).map fun (a, b) => (c :: a, b)

def contains (part : List Char) : List Char → Bool
  | [] => part.isEmpty
  | c :: s => part.isPrefixOf (c :: s) || contains part s

def partLength? (part s : List Char) : Option Nat :=
  if part.isPrefixOf s then some part.length else none

def dropPart (part s : List Char) : Option (List Char) :=
  if part.isPrefixOf s then some (s.drop part.length) else none

end CardQuery.Text
