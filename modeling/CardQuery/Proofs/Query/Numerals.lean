import CardQuery.Proofs.Text.Numeral
import CardQuery.Proofs.Text.Split
import CardQuery.Query.Note
import Mathlib.Data.List.Forall2

namespace CardQuery

namespace Number

lemma ofDigits_toDigits (n : ℕ) : ofDigits (Nat.toDigits 10 n) = n := by
  have h : Nat.ofDigitChars 10 (Nat.toDigits 10 n) 0 = n := Nat.ofDigitChars_ten_toDigits
  rwa [Nat.ofDigitChars_eq_foldl] at h

lemma isDigit_of_mem_toDigits {n : ℕ} {c : Char} (h : c ∈ Nat.toDigits 10 n) : c.isDigit :=
  Nat.isDigit_of_mem_toDigits (by decide) (by decide) h

lemma natural?_toDigits (n : ℕ) : natural? (Nat.toDigits 10 n) = some n := by
  have hdigits : (Nat.toDigits 10 n).all Char.isDigit :=
    List.all_eq_true.mpr fun c hc => isDigit_of_mem_toDigits hc
  simp [natural?, hdigits, ofDigits_toDigits]

lemma signed?_of_digits {s : List Char} {n : ℕ} (h : ∀ c ∈ s, c.isDigit) (hn : natural? s = some n) :
    signed? s = some (n : Int) := by
  unfold signed?
  split
  · exact absurd (h '-' (by simp)) (by decide)
  · exact absurd (h '+' (by simp)) (by decide)
  · simp [hn]

lemma checked_of_inRange {n : Int} (h : inRange n) : checked n = some n := by
  rw [checked, if_pos h]

theorem read?_toDigits {n : ℕ} (h : inRange n) : read? (Nat.toDigits 10 n) = some (n : Int) := by
  have hsigned : signed? (Nat.toDigits 10 n) = some (n : Int) :=
    signed?_of_digits (fun c hc => isDigit_of_mem_toDigits hc) (natural?_toDigits n)
  rw [read?, hsigned, Option.bind_some]
  exact checked_of_inRange h

lemma toList_toString (n : ℕ) : (toString (n : Int)).toList = Nat.toDigits 10 n := by
  simp [Int.toString_eq_repr, Int.repr_eq_if]

lemma toList_toString_negSucc (n : ℕ) :
    (toString (Int.negSucc n)).toList = '-' :: Nat.toDigits 10 (n + 1) := by
  simp [Int.toString_eq_repr, Int.repr_eq_if]

lemma mem_toString {n : Int} {c : Char} (h : c ∈ (toString n).toList) : c = '-' ∨ c.isDigit := by
  cases n with
  | ofNat n => exact Or.inr (isDigit_of_mem_toDigits (toList_toString n ▸ h))
  | negSucc n =>
    rw [toList_toString_negSucc] at h
    exact (List.mem_cons.mp h).imp_right isDigit_of_mem_toDigits

theorem read?_toString {n : Int} (h : inRange n) : read? (toString n).toList = some n := by
  cases n with
  | ofNat n => exact toList_toString n ▸ read?_toDigits h
  | negSucc n =>
    have hsigned : signed? ('-' :: Nat.toDigits 10 (n + 1)) = some (Int.negSucc n) := by
      rw [signed?, natural?_toDigits]
      rfl
    rw [toList_toString_negSucc, read?, hsigned, Option.bind_some]
    exact checked_of_inRange h

end Number

lemma mapM_eq_some {α β : Type} {f : α → Option β} {as : List α} {bs : List β} :
    as.mapM f = some bs ↔ List.Forall₂ (fun a b => f a = some b) as bs := by
  induction as generalizing bs with
  | nil => simp [eq_comm]
  | cons a as ih =>
    simp only [List.mapM_cons, Option.bind_eq_bind, Option.bind_eq_some_iff, ih,
      List.forall₂_cons_left_iff, Option.pure_def, Option.some_inj]
    constructor
    · rintro ⟨b, hb, bs, hbs, rfl⟩
      exact ⟨b, bs, hb, hbs, rfl⟩
    · rintro ⟨b, bs, hb, hbs, rfl⟩
      exact ⟨b, hb, bs, hbs, rfl⟩

lemma toList_idList (ids : List Int) : (idList ids).toList =
    '(' :: (Text.joinWith ',' (ids.map fun id => (toString id).toList) ++ [')']) := by
  simp [idList, String.toList_append, String.toList_intercalate, Text.joinWith, Function.comp_def]

namespace Query

structure Nameable (id : Int) : Prop where
  nonneg : 0 ≤ id
  inRange : Number.inRange id

instance (id : Int) : Decidable (Nameable id) :=
  decidable_of_iff (0 ≤ id ∧ Number.inRange id) ⟨fun h => ⟨h.1, h.2⟩, fun h => ⟨h.1, h.2⟩⟩

lemma Nameable.isDigit {id : Int} (h : Nameable id) {c : Char} (hc : c ∈ (toString id).toList) :
    c.isDigit := by
  obtain ⟨n, rfl⟩ := Int.eq_ofNat_of_zero_le h.nonneg
  exact Number.isDigit_of_mem_toDigits (Number.toList_toString n ▸ hc)

structure IsRun (run : List Char) (id : Int) : Prop where
  ne_nil : run ≠ []
  digits : ∀ c ∈ run, c.isDigit
  value : id = Nat.ofDigitChars 10 run 0
  lt : id < 0x8000000000000000

def Lists (value : String) (ids : List Int) : Prop :=
  ∃ runs, runs ≠ [] ∧ value.toList = Text.joinWith ',' runs ∧ List.Forall₂ IsRun runs ids

lemma read?_of_digits {s : List Char} (h : ∀ c ∈ s, c.isDigit) {id : Int} :
    Number.read? s = some id ↔ IsRun s id := by
  rw [Number.read?_eq_some]
  constructor
  · rintro ⟨hdenotes, hrange⟩
    have hlt := (Number.inRange_iff.mp hrange).2
    cases hdenotes with
    | unsigned hne hdigits => exact ⟨hne, hdigits, rfl, hlt⟩
    | plus => exact absurd (h '+' (by simp)) (by decide)
    | minus => exact absurd (h '-' (by simp)) (by decide)
  · rintro ⟨hne, hdigits, rfl, hlt⟩
    exact ⟨.unsigned hne hdigits, Number.inRange_iff.mpr ⟨by omega, hlt⟩⟩

lemma isRun_toString {id : Int} (h : Nameable id) : IsRun (toString id).toList id :=
  (read?_of_digits fun _ => h.isDigit).mp (Number.read?_toString h.inRange)

lemma digits_of_runs {runs : List (List Char)} {ids : List Int} (h : List.Forall₂ IsRun runs ids) :
    ∀ run ∈ runs, ∀ c ∈ run, c.isDigit := by
  have hboth := h.imp fun _ _ hrun => And.intro hrun.digits hrun
  exact ((List.forall₂_and_left runs ids).mp hboth).1

lemma comma_notMem_of_digits {run : List Char} (h : ∀ c ∈ run, c.isDigit) : ',' ∉ run := by
  intro hcomma
  exact absurd (h _ hcomma) (by decide)

lemma lists_intercalate {ids : List Int} (hne : ids ≠ []) (h : ∀ id ∈ ids, Nameable id) :
    Lists (",".intercalate (ids.map toString)) ids := by
  refine ⟨ids.map fun id => (toString id).toList, by simpa using hne, ?_, ?_⟩
  · simp [String.toList_intercalate, Text.joinWith, Function.comp_def]
  · rw [List.forall₂_map_left_iff, List.forall₂_same]
    intro id hid
    exact isRun_toString (h id hid)

lemma Lists.all {value : String} {ids : List Int} (h : Lists value ids) :
    value.toList.all fun c => c.isDigit || c == ',' := by
  obtain ⟨runs, -, htext, hruns⟩ := h
  rw [htext, List.all_eq_true]
  intro c hc
  rcases Text.mem_joinWith hc with rfl | ⟨run, hrun, hcrun⟩
  · rfl
  · simp [digits_of_runs hruns run hrun c hcrun]

lemma digits_of_splitOn {s : List Char} (h : s.all fun c => c.isDigit || c == ',') :
    ∀ run ∈ Text.splitOn ',' s, ∀ c ∈ run, c.isDigit := by
  intro run hrun c hc
  rcases Bool.or_eq_true_iff.mp (List.all_eq_true.mp h c (Text.subset_of_mem_splitOn hrun hc)) with
    hdigit | hcomma
  · exact hdigit
  · obtain rfl := beq_iff_eq.mp hcomma
    exact absurd hc (Text.notMem_of_mem_splitOn hrun)

theorem ids?_eq_some {value : String} {ids : List Int} : ids? value = some ids ↔ Lists value ids := by
  rw [ids?]
  split
  · next hall =>
    rw [mapM_eq_some]
    constructor
    · intro hread
      have hboth := (List.forall₂_and_left _ ids).mpr ⟨digits_of_splitOn hall, hread⟩
      refine ⟨_, Text.splitOn_ne_nil ',' _, (Text.joinWith_splitOn ',' _).symm, ?_⟩
      exact hboth.imp fun _ _ h => (read?_of_digits h.1).mp h.2
    · rintro ⟨runs, hne, htext, hruns⟩
      have hcomma : ∀ run ∈ runs, ',' ∉ run := fun run hrun =>
        comma_notMem_of_digits (digits_of_runs hruns run hrun)
      rw [htext, Text.splitOn_joinWith hne hcomma]
      exact hruns.imp fun _ _ h => (read?_of_digits h.digits).mpr h
  · next hall => exact iff_of_false (by simp) fun h => hall h.all

lemma idsOf_of_lists {form : List Int → Condition} {value : String} {ids : List Int}
    (h : Lists value ids) : idsOf form value = .condition (form ids) := by
  rw [idsOf, ids?_eq_some.mpr h]

lemma idsOf_eq_invalid {form : List Int → Condition} {value : String} :
    idsOf form value = .invalid ↔ ¬ ∃ ids, Lists value ids := by
  constructor
  · rintro hinvalid ⟨ids, h⟩
    rw [idsOf_of_lists h] at hinvalid
    cases hinvalid
  · intro hnone
    have hids : ids? value = none := by
      rw [Option.eq_none_iff_forall_ne_some]
      intro ids h
      exact hnone ⟨ids, ids?_eq_some.mp h⟩
    rw [idsOf, hids]

end Query

end CardQuery
