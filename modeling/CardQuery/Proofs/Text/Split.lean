import CardQuery.Text.Split
import Mathlib.Data.List.Basic

namespace CardQuery.Text

variable {sep : Char}

lemma notMem_of_mem_splitOn {s p : List Char} (h : p ∈ splitOn sep s) : sep ∉ p := by
  induction s generalizing p with
  | nil =>
    obtain rfl : p = [] := by simpa [splitOn] using h
    simp
  | cons c s ih =>
    rw [splitOn] at h
    split at h
    · rcases List.mem_cons.mp h with rfl | h
      · simp
      · exact ih h
    · next hc =>
      split at h
      · next hs => exact absurd hs (splitOn_ne_nil sep s)
      · next q qs hs =>
        rcases List.mem_cons.mp h with rfl | h
        · have hq := ih (p := q) (by simp [hs])
          simpa [Ne.symm hc] using hq
        · exact ih (by simp [hs, h])

lemma length_splitOn (sep : Char) (s : List Char) : (splitOn sep s).length = s.count sep + 1 := by
  induction s with
  | nil => rfl
  | cons c s ih =>
    rw [splitOn]
    split
    · next hc => simp [hc, ih]
    · next hc =>
      rw [List.count_cons_of_ne hc, ← ih]
      split
      · next hs => exact absurd hs (splitOn_ne_nil sep s)
      · next p ps hs => simp [hs]

lemma subset_joinWith {ps : List (List Char)} {p : List Char} (hp : p ∈ ps) : p ⊆ joinWith sep ps := by
  induction ps with
  | nil => cases hp
  | cons q qs ih =>
    by_cases hnil : qs = []
    · subst hnil
      obtain rfl := List.mem_singleton.mp hp
      simp [joinWith, List.intercalate]
    · rw [joinWith_cons _ _ hnil]
      rcases List.mem_cons.mp hp with rfl | hp
      · exact List.subset_append_left _ _
      · have htail : joinWith sep qs ⊆ sep :: joinWith sep qs := List.subset_cons_self sep _
        exact List.Subset.trans (ih hp) (List.Subset.trans htail (List.subset_append_right q _))

lemma subset_of_mem_splitOn {s p : List Char} (hp : p ∈ splitOn sep s) : p ⊆ s := by
  have h : p ⊆ joinWith sep (splitOn sep s) := subset_joinWith hp
  rwa [joinWith_splitOn] at h

lemma joinWith_append_cons (sep : Char) (pre : List (List Char)) (p : List Char)
    (post : List (List Char)) : joinWith sep (pre ++ p :: post) =
      pre.flatMap (· ++ [sep]) ++ (p ++ post.flatMap (sep :: ·)) := by
  induction pre with
  | nil =>
    simp only [List.nil_append, List.flatMap_nil]
    induction post generalizing p with
    | nil => simp [joinWith, List.intercalate]
    | cons q post ih =>
      rw [joinWith_cons _ _ (by simp), ih]
      simp
  | cons q pre ih =>
    rw [List.cons_append, joinWith_cons _ _ (by simp), ih]
    simp

lemma count_joinWith {ps : List (List Char)} (hne : ps ≠ []) :
    ps.length ≤ (joinWith sep ps).count sep + 1 ∧
      ((joinWith sep ps).count sep + 1 = ps.length ↔ ∀ p ∈ ps, sep ∉ p) := by
  induction ps with
  | nil => exact absurd rfl hne
  | cons p ps ih =>
    have hp : p.count sep = 0 ↔ sep ∉ p := List.count_eq_zero
    by_cases hnil : ps = []
    · subst hnil
      simpa [joinWith, List.intercalate] using hp
    · obtain ⟨hle, hiff⟩ := ih hnil
      rw [List.forall_mem_cons, ← hp, ← hiff, joinWith_cons _ _ hnil, List.count_append,
        List.count_cons_self, List.length_cons]
      omega

lemma flatMap_joinWith (form : Char → List Char) (sep : Char) (ps : List (List Char)) :
    (joinWith sep ps).flatMap form = List.intercalate (form sep) (ps.map (·.flatMap form)) := by
  induction ps with
  | nil => rfl
  | cons p ps ih =>
    cases ps with
    | nil => simp [joinWith, List.intercalate]
    | cons q qs =>
      rw [joinWith_cons _ _ (by simp), List.flatMap_append, List.flatMap_cons, ih]
      simp [List.intercalate]

lemma splitOnce_append {p : List Char} (h : sep ∉ p) (s : List Char) :
    splitOnce sep (p ++ sep :: s) = some (p, s) := by
  induction p with
  | nil => simp [splitOnce]
  | cons c p ih =>
    simp only [List.mem_cons, not_or] at h
    simp [splitOnce, Ne.symm h.1, ih h.2]

lemma splitOnce_append_right {s key value : List Char}
    (h : splitOnce sep s = some (key, value)) (t : List Char) :
    splitOnce sep (s ++ t) = some (key, value ++ t) := by
  induction s generalizing key with
  | nil => simp [splitOnce] at h
  | cons c s ih =>
    rw [splitOnce] at h
    rw [List.cons_append, splitOnce]
    split at h
    · next hc =>
      obtain ⟨rfl, rfl⟩ : [] = key ∧ s = value := by simpa using h
      rw [if_pos hc]
    · next hc =>
      obtain ⟨⟨k, v⟩, hsplit, heq⟩ := Option.map_eq_some_iff.mp h
      obtain ⟨rfl, rfl⟩ : c :: k = key ∧ v = value := by simpa using heq
      rw [if_neg hc, ih hsplit]
      rfl

lemma splitOnce_eq_none {s : List Char} : splitOnce sep s = none ↔ sep ∉ s := by
  induction s with
  | nil => simp [splitOnce]
  | cons c s ih =>
    by_cases hc : c = sep
    · simp [splitOnce, hc]
    · simp [splitOnce, hc, Ne.symm hc, ih]

lemma notMem_of_splitOnce {s p r : List Char} (h : splitOnce sep s = some (p, r)) : sep ∉ p := by
  induction s generalizing p with
  | nil => simp [splitOnce] at h
  | cons c s ih =>
    rw [splitOnce] at h
    split at h
    · obtain ⟨rfl, -⟩ : [] = p ∧ s = r := by simpa using h
      simp
    · next hc =>
      obtain ⟨⟨q, r'⟩, hq, heq⟩ := Option.map_eq_some_iff.mp h
      obtain ⟨rfl, rfl⟩ : c :: q = p ∧ r' = r := by simpa using heq
      simpa [Ne.symm hc] using ih hq

lemma splitOn_append (p s : List Char) :
    splitOn sep (p ++ sep :: s) = splitOn sep p ++ splitOn sep s := by
  induction p with
  | nil => simp [splitOn]
  | cons c p ih =>
    rw [List.cons_append, splitOn, splitOn, ih]
    split
    · rfl
    · cases hp : splitOn sep p with
      | nil => exact absurd hp (splitOn_ne_nil sep p)
      | cons q qs => rfl

lemma splitOn_joinWith_eq {ps : List (List Char)} (hne : ps ≠ []) :
    splitOn sep (joinWith sep ps) = ps.flatMap (splitOn sep) := by
  induction ps with
  | nil => exact absurd rfl hne
  | cons p ps ih =>
    by_cases hnil : ps = []
    · subst hnil
      simp [joinWith, List.intercalate]
    · rw [joinWith_cons _ _ hnil, splitOn_append, ih hnil, List.flatMap_cons]

lemma length_splitOn_joinWith_iff (sep : Char) {ps : List (List Char)} (hne : ps ≠ []) :
    (splitOn sep (joinWith sep ps)).length = ps.length ↔ ∀ p ∈ ps, sep ∉ p := by
  rw [length_splitOn]
  exact (count_joinWith hne).2

end CardQuery.Text
