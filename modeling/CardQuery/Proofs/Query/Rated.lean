import CardQuery.Proofs.Query.Asking
import CardQuery.Proofs.Query.Condition
import CardQuery.Proofs.Text.Numeral
import CardQuery.Proofs.Text.Split

namespace CardQuery.Query

open Number

variable {schedule : Schedule} {value : String}

section Deadline

def deadline (schedule : Schedule) (days : Int) : Int := (schedule.dayCutoff - 86400 * days) * 1000

structure Reaches (schedule : Schedule) (days : Int) : Prop where
  span : inRange (86400 * days)
  second : inRange (schedule.dayCutoff - 86400 * days)
  millis : inRange (deadline schedule days)

theorem cutoff?_eq_some {days millis : Int} :
    cutoff? schedule days = some millis ↔ Reaches schedule days ∧ deadline schedule days = millis := by
  simp only [cutoff?, mul?, sub?, secondsPerDay, Int.mul_comm days, Option.bind_eq_bind,
    Option.bind_eq_some_iff, checked_eq_some]
  constructor
  · rintro ⟨_, ⟨hspan, rfl⟩, _, ⟨hsecond, rfl⟩, hmillis, rfl⟩
    exact ⟨⟨hspan, hsecond, hmillis⟩, rfl⟩
  · rintro ⟨⟨hspan, hsecond, hmillis⟩, rfl⟩
    exact ⟨_, ⟨hspan, rfl⟩, _, ⟨hsecond, rfl⟩, hmillis, rfl⟩

lemma reaches_iff_inRange {days : Int} (hcutoff : 0 ≤ schedule.dayCutoff) (hdays : days ≤ 31) :
    Reaches schedule days ↔ inRange (deadline schedule days) := by
  constructor
  · exact Reaches.millis
  · intro h
    have hmillis := inRange_iff.mp h
    rw [deadline] at hmillis
    -- days ahead are few, and days back only add to the cutoff, so no step is larger than the result
    exact ⟨inRange_iff.mpr (by omega), inRange_iff.mpr (by omega), h⟩

end Deadline

def eases : List (Char × Int) := [('1', 1), ('2', 2), ('3', 3), ('4', 4)]

lemma ease?_eq_some {part : List Char} {e : Int} :
    ease? part = some e ↔ ∃ c, part = [c] ∧ (c, e) ∈ eases := by
  constructor
  · intro h
    unfold ease? at h
    split at h <;> cases h <;> exact ⟨_, rfl, by decide⟩
  · rintro ⟨c, rfl, h⟩
    simp only [eases, List.mem_cons, Prod.mk.injEq, List.not_mem_nil, or_false] at h
    rcases h with ⟨rfl, rfl⟩ | ⟨rfl, rfl⟩ | ⟨rfl, rfl⟩ | ⟨rfl, rfl⟩ <;> rfl

lemma colon_notMem_of_eases {c : Char} {e : Int} (h : (c, e) ∈ eases) : ':' ∉ [c] := by
  have hall : ∀ p ∈ eases, p.1 ≠ ':' := by decide
  simpa using (hall _ h).symm

inductive RatedTerm : List Char → Int → Option Int → Prop
  | any {s n} : IsNumeral s n → RatedTerm s n none
  | graded {s n c e} : IsNumeral s n → (c, e) ∈ eases → RatedTerm (s ++ ':' :: [c]) n (some e)

inductive ReadsRated : List Char → Int → Option Int → Prop
  | term {s n ease} : RatedTerm s n ease → ReadsRated s n ease
  | goesOn {s n e} (rest : List Char) : RatedTerm s n (some e) → ReadsRated (s ++ ':' :: rest) n (some e)

lemma colon_notMem_of_isNumeral {s : List Char} {n : Int} (h : IsNumeral s n) : ':' ∉ s := by
  intro hmem
  have hcases := h.denotes.mem hmem
  revert hcases
  decide

lemma RatedTerm.count_colon_le {s : List Char} {n : Int} {ease : Option Int} (h : RatedTerm s n ease) :
    s.count ':' ≤ 1 := by
  cases h with
  | any hn => simp [List.count_eq_zero_of_not_mem (colon_notMem_of_isNumeral hn)]
  | graded hn he =>
    simp [List.count_eq_zero_of_not_mem (colon_notMem_of_isNumeral hn),
      List.count_eq_zero_of_not_mem (colon_notMem_of_eases he)]

inductive RatedParts : List (List Char) → Int → Option Int → Prop
  | any {s n} : IsNumeral s n → RatedParts [s] n none
  | graded {s n c e} (rest) : IsNumeral s n → (c, e) ∈ eases → RatedParts (s :: [c] :: rest) n (some e)

lemma ReadsRated.parts {s : List Char} {n : Int} {ease : Option Int} (h : ReadsRated s n ease) :
    RatedParts (Text.splitOn ':' s) n ease := by
  cases h with
  | term h =>
    cases h with
    | any hn =>
      rw [Text.splitOn_of_notMem (colon_notMem_of_isNumeral hn)]
      exact .any hn
    | graded hn he =>
      rw [Text.splitOn_append_cons (colon_notMem_of_isNumeral hn),
        Text.splitOn_of_notMem (colon_notMem_of_eases he)]
      exact .graded [] hn he
  | goesOn rest h =>
    cases h with
    | graded hn he =>
      rw [List.append_assoc, List.cons_append, Text.splitOn_append_cons (colon_notMem_of_isNumeral hn),
        Text.splitOn_append_cons (colon_notMem_of_eases he)]
      exact .graded _ hn he

lemma ReadsRated.of_parts {s : List Char} {n : Int} {ease : Option Int}
    (h : RatedParts (Text.splitOn ':' s) n ease) : ReadsRated s n ease := by
  generalize hparts : Text.splitOn ':' s = parts at h
  have hjoin := Text.joinWith_splitOn ':' s
  rw [hparts] at hjoin
  cases h with
  | any hn =>
    obtain rfl : _ = s := by simpa [Text.joinWith, List.intercalate] using hjoin
    exact .term (.any hn)
  | graded rest hn he =>
    rw [Text.joinWith_cons _ _ (by simp)] at hjoin
    by_cases hrest : rest = []
    · subst hrest
      obtain rfl : _ = s := by simpa [Text.joinWith, List.intercalate] using hjoin
      exact .term (.graded hn he)
    · rw [Text.joinWith_cons _ _ hrest] at hjoin
      subst hjoin
      simpa using ReadsRated.goesOn (Text.joinWith ':' rest) (RatedTerm.graded hn he)

lemma rated_of_parts {n : Int} {ease : Option Int}
    (h : RatedParts (Text.splitOn ':' value.toList) n ease) : rated schedule value =
      ofCondition? ((cutoff? schedule (min n 31)).map fun millis => .reviewedAfter millis ease) := by
  rw [rated, longestReviewSpan]
  generalize Text.splitOn ':' value.toList = parts at h
  cases h with
  | any hn =>
    simp only [List.headD_cons, read?_eq_some.mpr hn, Option.bind_eq_bind, Option.bind_some]
    cases cutoff? schedule (min n 31) <;> rfl
  | graded rest hn he =>
    simp only [List.headD_cons, read?_eq_some.mpr hn, ease?_eq_some.mpr ⟨_, rfl, he⟩, Option.bind_eq_bind,
      Option.bind_some, List.getElem?_cons_succ, List.getElem?_cons_zero]
    cases cutoff? schedule (min n 31) <;> rfl

lemma exists_parts {c : Condition} (h : rated schedule value = .condition c) :
    ∃ n ease, RatedParts (Text.splitOn ':' value.toList) n ease := by
  have h := ofCondition?_eq_condition h
  simp only [Option.bind_eq_bind, Option.bind_eq_some_iff] at h
  obtain ⟨n, hn, _, -, h⟩ := h
  have hn := read?_eq_some.mp hn
  generalize hparts : Text.splitOn ':' value.toList = parts at *
  match parts with
  | [] => exact absurd hparts (Text.splitOn_ne_nil _ _)
  | [s] => exact ⟨n, none, .any hn⟩
  | s :: part :: rest =>
    obtain ⟨e, he, -⟩ := Option.bind_eq_some_iff.mp h
    obtain ⟨d, rfl, hd⟩ := ease?_eq_some.mp he
    exact ⟨n, some e, .graded rest hn hd⟩

lemma rated_eq_condition {c : Condition} :
    rated schedule value = .condition c ↔ ∃ n ease, ReadsRated value.toList n ease ∧
      Reaches schedule (min n 31) ∧ c = .reviewedAfter (deadline schedule (min n 31)) ease := by
  constructor
  · intro h
    obtain ⟨n, ease, hparts⟩ := exists_parts h
    rw [rated_of_parts hparts] at h
    obtain ⟨_, hmillis, rfl⟩ := Option.map_eq_some_iff.mp (ofCondition?_eq_condition h)
    obtain ⟨hreaches, rfl⟩ := cutoff?_eq_some.mp hmillis
    exact ⟨n, ease, .of_parts hparts, hreaches, rfl⟩
  · rintro ⟨n, ease, hreads, hreaches, rfl⟩
    rw [rated_of_parts hreads.parts, cutoff?_eq_some.mpr ⟨hreaches, rfl⟩]
    rfl

lemma rated_eq_invalid
    (h : ∀ n ease, ReadsRated value.toList n ease → ¬Reaches schedule (min n 31)) :
    rated schedule value = .invalid := by
  rcases ofCondition?_cases _ with hinvalid | ⟨c, hc⟩
  · exact hinvalid
  · obtain ⟨n, ease, hreads, hreaches, -⟩ := rated_eq_condition.mp hc
    exact absurd hreaches (h n ease hreads)

lemma holds?_reviewedAfter (millis : Int) (ease : Option Int) (reviews : List Review) (row : Row) :
    ∃ v, Bound.holds? reviews row ⟨.reviewedAfter millis ease, []⟩ = some v ∧
      (v = true ↔ ∃ r ∈ reviews, r.card = row.card.id ∧ millis < r.id ∧ ∀ e ∈ ease, r.ease = e) := by
  refine ⟨_, rfl, ?_⟩
  cases ease <;> simp [and_assoc]

theorem rated_reads (schedule : Schedule) (value : String) :
    ((∃ c, rated schedule value = .condition c) ↔
      ∃ n ease, ReadsRated value.toList n ease ∧ Reaches schedule (min n 31)) ∧
    (∀ n ease, ReadsRated value.toList n ease → Reaches schedule (min n 31) →
      ∃ c, rated schedule value = .condition c ∧ ∀ reviews row, ∃ v,
        Bound.holds? reviews row ⟨c, []⟩ = some v ∧ (v = true ↔ ∃ r ∈ reviews, r.card = row.card.id ∧
          deadline schedule (min n 31) < r.id ∧ ∀ e ∈ ease, r.ease = e)) ∧
    ((∀ n ease, ReadsRated value.toList n ease → ¬Reaches schedule (min n 31)) →
      rated schedule value = .invalid) ∧
    (0 ≤ schedule.dayCutoff → ∀ n, Reaches schedule (min n 31) ↔ inRange (deadline schedule (min n 31))) := by
  refine ⟨⟨?_, ?_⟩, ?_, rated_eq_invalid, ?_⟩
  · rintro ⟨c, hc⟩
    obtain ⟨n, ease, hreads, hreaches, -⟩ := rated_eq_condition.mp hc
    exact ⟨n, ease, hreads, hreaches⟩
  · rintro ⟨n, ease, hreads, hreaches⟩
    exact ⟨_, rated_eq_condition.mpr ⟨n, ease, hreads, hreaches, rfl⟩⟩
  · intro n ease hreads hreaches
    exact ⟨_, rated_eq_condition.mpr ⟨n, ease, hreads, hreaches, rfl⟩, holds?_reviewedAfter _ ease⟩
  · intro hcutoff n
    exact reaches_iff_inRange hcutoff (Int.min_le_right n 31)

theorem rated_goes_on : (∀ n ease, ¬RatedTerm "1:2:3".toList n ease) ∧
    rated ⟨10, 864000⟩ "1:2:3" = .condition (.reviewedAfter 777600000 (some 2)) := by
  constructor
  · intro n ease h
    exact absurd h.count_colon_le (by decide)
  · refine rated_eq_condition.mpr ⟨1, some 2, ?_, ⟨by decide, by decide, by decide⟩, rfl⟩
    exact .goesOn ['3'] (.graded (s := ['1']) (read?_eq_some.mp (by decide)) (by decide))

end CardQuery.Query
