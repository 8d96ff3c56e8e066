import CardQuery.Text.Number
import Mathlib.Data.List.Basic
import Mathlib.Tactic.Common

namespace CardQuery.Number

inductive Denotes : List Char → Int → Prop
  | unsigned {s} : s ≠ [] → (∀ c ∈ s, c.isDigit) → Denotes s (Nat.ofDigitChars 10 s 0)
  | plus {s} : s ≠ [] → (∀ c ∈ s, c.isDigit) → Denotes ('+' :: s) (Nat.ofDigitChars 10 s 0)
  | minus {s} : s ≠ [] → (∀ c ∈ s, c.isDigit) → Denotes ('-' :: s) (-Nat.ofDigitChars 10 s 0)

structure IsNumeral (s : List Char) (n : Int) : Prop where
  denotes : Denotes s n
  inRange : inRange n

lemma natural?_eq_some {s : List Char} {n : ℕ} :
    natural? s = some n ↔ s ≠ [] ∧ (∀ c ∈ s, c.isDigit) ∧ n = Nat.ofDigitChars 10 s 0 := by
  have hvalue : ofDigits s = Nat.ofDigitChars 10 s 0 := by
    rw [Nat.ofDigitChars_eq_foldl]
    rfl
  rw [natural?, hvalue, ← List.all_eq_true, and_comm (b := _ = _), eq_comm (a := n)]
  by_cases hne : s = [] <;> by_cases hall : s.all Char.isDigit <;> simp [hne, hall]

lemma signed?_eq_some {s : List Char} {n : Int} : signed? s = some n ↔ Denotes s n := by
  constructor
  · intro h
    unfold signed? at h
    split at h
    all_goals
      simp only [Option.bind_eq_bind, Option.pure_def, Option.map_bind, Option.map_some,
        Function.comp_apply, Option.bind_eq_some_iff, Option.some_inj, natural?_eq_some] at h
      obtain ⟨_, ⟨hne, hdigits, rfl⟩, rfl⟩ := h
    · exact .minus hne hdigits
    · exact .plus hne hdigits
    · exact .unsigned hne hdigits
  · intro h
    cases h with
    | unsigned hne hdigits =>
      unfold signed?
      split
      · exact absurd (hdigits '-' (by simp)) (by decide)
      · exact absurd (hdigits '+' (by simp)) (by decide)
      · rw [natural?_eq_some.mpr ⟨hne, hdigits, rfl⟩]
        rfl
    | plus hne hdigits =>
      rw [signed?, natural?_eq_some.mpr ⟨hne, hdigits, rfl⟩]
      rfl
    | minus hne hdigits =>
      rw [signed?, natural?_eq_some.mpr ⟨hne, hdigits, rfl⟩]
      rfl

lemma inRange_iff {n : Int} : inRange n ↔ -0x8000000000000000 ≤ n ∧ n < 0x8000000000000000 := by
  simp [inRange]

lemma checked_eq_some {m n : Int} : checked m = some n ↔ inRange m ∧ m = n := by
  rw [checked]
  split <;> simp_all

theorem read?_eq_some {s : List Char} {n : Int} : read? s = some n ↔ IsNumeral s n := by
  rw [read?, Option.bind_eq_some_iff]
  constructor
  · rintro ⟨m, hm, hn⟩
    obtain ⟨hrange, rfl⟩ := checked_eq_some.mp hn
    exact ⟨signed?_eq_some.mp hm, hrange⟩
  · rintro ⟨hdenotes, hrange⟩
    exact ⟨n, signed?_eq_some.mpr hdenotes, checked_eq_some.mpr ⟨hrange, rfl⟩⟩

lemma read?_eq_none {s : List Char} : read? s = none ↔ ∀ n, ¬IsNumeral s n := by
  simp only [Option.eq_none_iff_forall_ne_some, ne_eq, read?_eq_some]

lemma IsNumeral.unique {s : List Char} {m n : Int} (hm : IsNumeral s m) (hn : IsNumeral s n) : m = n := by
  apply Option.some_inj.mp
  rw [← read?_eq_some.mpr hm, read?_eq_some.mpr hn]

lemma Denotes.ne_nil {s : List Char} {n : Int} (h : Denotes s n) : s ≠ [] := by
  cases h <;> simp_all

lemma Denotes.mem {s : List Char} {n : Int} (h : Denotes s n) {c : Char} (hc : c ∈ s) :
    c = '+' ∨ c = '-' ∨ c.isDigit := by
  cases h with
  | unsigned _ hdigits => exact Or.inr (Or.inr (hdigits c hc))
  | plus _ hdigits =>
    rcases List.mem_cons.mp hc with rfl | hc
    · exact Or.inl rfl
    · exact Or.inr (Or.inr (hdigits c hc))
  | minus _ hdigits =>
    rcases List.mem_cons.mp hc with rfl | hc
    · exact Or.inr (Or.inl rfl)
    · exact Or.inr (Or.inr (hdigits c hc))

end CardQuery.Number
