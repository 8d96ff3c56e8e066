import CardQuery.Proofs.Query.FieldRequest
import Mathlib.Algebra.BigOperators.Group.List.Basic

namespace CardQuery.Query

lemma mem_combinations_iff {sizes combo : List ℕ} : combo ∈ combinations sizes ↔
    combo.length = sizes.length ∧
      ∀ i (hc : i < combo.length) (hs : i < sizes.length), combo[i] < sizes[i] := by
  rw [mem_combinations, List.forall₂_iff_get]
  rfl

lemma pairwise_lex_combinations (sizes : List ℕ) :
    (combinations sizes).Pairwise (List.Lex (· < ·)) := by
  induction sizes with
  | nil => exact List.pairwise_singleton _ _
  | cons n ns ih =>
    rw [combinations, List.pairwise_flatMap]
    constructor
    -- one first pick: the rest decides
    · intro i _
      rw [List.pairwise_map]
      exact ih.imp List.Lex.cons
    -- two first picks: they decide, whatever the rest
    · apply List.pairwise_lt_range.imp
      intro i j hij a ha b hb
      obtain ⟨as, -, rfl⟩ := List.mem_map.mp ha
      obtain ⟨bs, -, rfl⟩ := List.mem_map.mp hb
      exact .rel hij

lemma nodup_combinations (sizes : List ℕ) : (combinations sizes).Nodup := by
  apply (pairwise_lex_combinations sizes).imp
  rintro combo _ hlt rfl
  exact List.lt_irrefl combo hlt

lemma length_combinations (sizes : List ℕ) : (combinations sizes).length = sizes.prod := by
  induction sizes with
  | nil => rfl
  | cons n ns ih =>
    rw [combinations, List.length_flatMap]
    simp [ih]

theorem combinations_enumerate (sizes : List ℕ) :
    (∀ combo, combo ∈ combinations sizes ↔ combo.length = sizes.length ∧
      ∀ i (hc : i < combo.length) (hs : i < sizes.length), combo[i] < sizes[i]) ∧
    (combinations sizes).Nodup ∧
    (combinations sizes).Pairwise (List.Lex (· < ·)) ∧
    (combinations sizes).length = sizes.prod :=
  ⟨fun _ => mem_combinations_iff, nodup_combinations sizes, pairwise_lex_combinations sizes,
    length_combinations sizes⟩

example : combinations [2, 3] = [[0, 0], [0, 1], [0, 2], [1, 0], [1, 1], [1, 2]] := by decide

end CardQuery.Query
