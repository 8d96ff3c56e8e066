import CardQuery.Text.Case
import Mathlib.Data.List.Basic

namespace CardQuery.Text

def lowerBetween (before after : List Char) : List Char → List Char
  | [] => []
  | c :: s =>
    (if c = 'Σ' then [if leadsCased before && !leadsCased (s ++ after) then 'ς' else 'σ']
      else lowerChar c) ++ lowerBetween (c :: before) after s

/-- The text ends in a sigma that ends a word as long as no cased letter comes next. -/
def FinalSigma (before s : List Char) : Prop :=
  ∃ u v, s = u ++ 'Σ' :: v ∧ v.all isCaseIgnorable ∧ leadsCased (u.reverse ++ before)

lemma shift_eq (n : ℕ) (rows : List CaseRow) :
    shift n rows = n ∨ ∃ r ∈ rows, r.first ≤ n ∧ shift n rows = (n + r.distance).toNat := by
  induction rows with
  | nil => exact Or.inl rfl
  | cons r rows ih =>
    rw [shift]
    split
    · exact Or.inl rfl
    · next hfirst =>
      split
      · exact Or.inr ⟨r, List.mem_cons_self, by omega, rfl⟩
      · exact ih.imp_right fun ⟨q, hq, h⟩ => ⟨q, List.mem_cons_of_mem _ hq, h⟩

lemma eq_toNat_of_ofNat {n : ℕ} {c : Char} (hnul : c ≠ '\x00') (h : Char.ofNat n = c) : n = c.toNat := by
  by_cases hvalid : n.isValidChar
  · rw [Char.ofNat, dif_pos hvalid] at h
    exact congrArg Char.toNat h
  · rw [Char.ofNat, dif_neg hvalid] at h
    exact absurd h.symm hnul

lemma eq_of_shift {rows : List CaseRow} {c d : Char}
    (hrows : ∀ r ∈ rows, (d.toNat : Int) < r.first + r.distance) (hnul : d ≠ '\x00')
    (h : Char.ofNat (shift c.toNat rows) = d) : c = d := by
  have hshift := eq_toNat_of_ofNat hnul h
  rcases shift_eq c.toNat rows with hself | ⟨r, hr, hfirst, himage⟩
  · rw [← Char.ofNat_toNat c, ← hself, hshift, Char.ofNat_toNat]
  · have := hrows r hr
    omega

lemma lowerFrom_append (before s t : List Char) :
    lowerFrom before (s ++ t) = lowerBetween before t s ++ lowerFrom (s.reverse ++ before) t := by
  induction s generalizing before with
  | nil => rfl
  | cons c s ih =>
    rw [List.cons_append, lowerFrom, lowerBetween, ih, List.reverse_cons, List.append_assoc,
      List.append_assoc]
    rfl

lemma length_lowerBetween (before after s : List Char) :
    (lowerBetween before after s).length = (lowerFrom before s).length := by
  induction s generalizing before with
  | nil => rfl
  | cons c s ih =>
    rw [lowerBetween, lowerFrom, List.length_append, List.length_append, ih]
    split <;> rfl

lemma leadsCased_append (v t : List Char) :
    leadsCased (v ++ t) = if v.all isCaseIgnorable then leadsCased t else leadsCased v := by
  induction v with
  | nil => simp
  | cons c v ih =>
    cases hc : isCaseIgnorable c with
    | true => simpa [leadsCased, hc] using ih
    | false => simp [leadsCased, hc]

lemma leadsCased_of_all {v : List Char} (h : v.all isCaseIgnorable) : leadsCased v = false := by
  have happend := leadsCased_append v []
  rw [List.append_nil, if_pos h] at happend
  exact happend

lemma sigma_eq_iff (before after s : List Char) :
    (if leadsCased before && !leadsCased (s ++ after) then 'ς' else 'σ') =
        (if leadsCased before && !leadsCased s then 'ς' else 'σ') ↔
      ¬(s.all isCaseIgnorable ∧ leadsCased before ∧ leadsCased after) := by
  rw [leadsCased_append]
  by_cases hall : s.all isCaseIgnorable
  · rw [if_pos hall, leadsCased_of_all hall]
    cases leadsCased before <;> cases leadsCased after <;> simp [hall]
  · simp [hall]

lemma finalSigma_cons {before : List Char} {c : Char} {s : List Char} :
    FinalSigma before (c :: s) ↔
      (c = 'Σ' ∧ s.all isCaseIgnorable ∧ leadsCased before) ∨ FinalSigma (c :: before) s := by
  constructor
  · rintro ⟨u, v, hs, hv, hu⟩
    cases u with
    | nil =>
      obtain ⟨rfl, rfl⟩ : c = 'Σ' ∧ s = v := by simpa using hs
      exact Or.inl ⟨rfl, hv, hu⟩
    | cons d u =>
      obtain ⟨rfl, rfl⟩ : c = d ∧ s = u ++ 'Σ' :: v := by simpa using hs
      exact Or.inr ⟨u, v, rfl, hv, by simpa using hu⟩
  · rintro (⟨rfl, hs, hbefore⟩ | ⟨u, v, rfl, hv, hu⟩)
    · exact ⟨[], s, rfl, hs, hbefore⟩
    · exact ⟨c :: u, v, rfl, hv, by simpa using hu⟩

lemma lowerBetween_eq_lowerFrom_iff (before after s : List Char) :
    lowerBetween before after s = lowerFrom before s ↔ ¬(FinalSigma before s ∧ leadsCased after) := by
  induction s generalizing before with
  | nil => simp [lowerBetween, lowerFrom, FinalSigma]
  | cons c s ih =>
    have htail := ih (c :: before)
    rw [lowerBetween, lowerFrom, finalSigma_cons]
    by_cases hc : c = 'Σ'
    · rw [if_pos hc, if_pos hc, List.singleton_append, List.singleton_append, List.cons.injEq,
        sigma_eq_iff, htail]
      tauto
    · rw [if_neg hc, if_neg hc, List.append_cancel_left_eq, htail]
      tauto

lemma equalAscii_of_mem {s t : List Char} {c : Char} (h : c ∈ s)
    (ht : c.toLower ∉ t.map Char.toLower) : equalAscii s t = false := by
  rw [equalAscii, beq_eq_false_iff_ne]
  intro heq
  exact ht (heq ▸ List.mem_map_of_mem h)

lemma length_eq_of_equalAscii {s t : List Char} (h : equalAscii s t) : s.length = t.length := by
  simpa using congrArg List.length (beq_iff_eq.mp h)

lemma isPrefix_append_iff {a b s t : List Char} (h : a.length = b.length) :
    a ++ s <+: b ++ t ↔ a = b ∧ s <+: t := by
  constructor
  · rintro ⟨r, hr⟩
    rw [List.append_assoc] at hr
    obtain ⟨hab, hst⟩ := List.append_inj hr h
    exact ⟨hab, r, hst⟩
  · rintro ⟨rfl, hst⟩
    exact (List.prefix_append_right_inj a).mpr hst

end CardQuery.Text
