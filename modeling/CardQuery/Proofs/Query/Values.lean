import CardQuery.Proofs.Boolean.Building
import CardQuery.Proofs.Query.Asking
import CardQuery.Proofs.Query.Condition

namespace CardQuery

lemma Bound.collect_values (ps : List (Piece Bound)) :
    Piece.collect Bound.values ps = Bound.valuesOf ps := by
  rw [Piece.collect, valuesOf]
  congr 1
  funext p
  cases p <;> rfl

namespace Query

def Closed (r : Reading Condition) : Prop := ∀ c, r = .condition c → Test.places c.pieces = 0

lemma closed_invalid : Closed .invalid := fun _ h => by cases h

lemma closed_condition {c : Condition} (h : Test.places c.pieces = 0) : Closed (.condition c) := by
  rintro _ ⟨⟩
  exact h

lemma places_templates (first : TemplateCards) (others : List TemplateCards) :
    Test.places (Condition.templates first others).pieces = 0 := by
  have ht (t : TemplateCards) : Test.places t.pieces = 0 := by
    rw [TemplateCards.pieces]
    split <;> rfl
  have ho : Test.places (others.flatMap fun t => .or :: t.pieces) = 0 := by
    induction others with
    | nil => rfl
    | cons t ts ih => simpa [Test.places] using ⟨ht t, ih⟩
  simp [Condition.pieces, ht, ho]

lemma Asks.places {command : Command} {c : Condition} (h : Asks command c) (hc : command ≠ .tag) :
    Test.places c.pieces = 0 := by
  cases h with
  | templates first others => exact places_templates first others
  | untagged => exact absurd rfl hc
  | tagged => exact absurd rfl hc
  | _ => rfl

def Interpretation.Filled (i : Interpretation) : Prop :=
  match i.reading with
  | .condition c => i.values.length = Test.places c.pieces
  | _ => i.values = []

lemma filled_plain {r : Reading Condition} (h : Closed r) : (Interpretation.plain r).Filled := by
  cases r with
  | condition c => exact (h c rfl).symm
  | _ => rfl

lemma filled_text (words : String) : (text words).Filled := rfl

lemma filled_tag (value : String) : (tag value).Filled := by
  rw [tag]
  split <;> rfl

lemma filled_command (ctx : Context) (col : Collection) (value : String) (c : Command) :
    (command ctx col value c).Filled := by
  have hplain {r : Reading Condition} (hr : command ctx col value c = .plain r) (hc : c ≠ .tag) :
      (command ctx col value c).Filled := by
    have hclosed : Closed r := by
      intro d hd
      have hread : (command ctx col value c).reading = .condition d := by rw [hr, ← hd]; rfl
      exact (asks_command hread).places hc
    rw [hr]
    exact filled_plain hclosed
  cases c with
  | tag => exact filled_tag value
  | _ => exact hplain rfl (by decide)

def interpret? (ctx : Context) (col : Collection) : Token → Option Interpretation
  | .text words => some (text words)
  | .command key value => (Command.ofKey? key).map (command ctx col value)
  | _ => none

lemma filled_interpret? {ctx : Context} {col : Collection} {t : Token} {i : Interpretation}
    (h : interpret? ctx col t = some i) : i.Filled := by
  cases t with
  | text words =>
    cases h
    exact filled_text words
  | command key value =>
    obtain ⟨c, _, rfl⟩ := Option.map_eq_some_iff.mp h
    exact filled_command ctx col value c
  | _ => cases h

def contribution (ctx : Context) (col : Collection) (t : Token) : Reading Bound :=
  match interpret? ctx col t with
  | some i => i.reading.map (⟨·, i.values⟩)
  | none => .everything

lemma contribution_eq_condition {ctx : Context} {col : Collection} {t : Token} {x : Bound}
    (h : contribution ctx col t = .condition x) :
    interpret? ctx col t = some ⟨.condition x.condition, x.values⟩ := by
  cases hi : interpret? ctx col t with
  | none => simp [contribution, hi] at h
  | some i =>
    obtain ⟨reading, values⟩ := i
    cases reading with
    | condition c =>
      obtain rfl : (⟨c, values⟩ : Bound) = x := by simpa [contribution, hi, Reading.map] using h
      rfl
    | _ => simp [contribution, hi, Reading.map] at h

lemma filled_takeAll {ctx : Context} {col : Collection} {ts : List Token} {x : Bound}
    (h : .term x ∈ (Builder.empty.takeAll (contribution ctx col) ts).pieces) : x.Filled := by
  rcases Builder.mem_takeAll h with h | ⟨t, -, ht⟩
  · simp [Builder.empty] at h
  · exact filled_interpret? (contribution_eq_condition ht)

section

variable (ctx : Context) (col : Collection)

def reading (t : Token) : Reading Condition :=
  ((interpret? ctx col t).map Interpretation.reading).getD .everything

def noted (t : Token) : List String := ((interpret? ctx col t).map Interpretation.values).getD []

lemma noted_mark {t : Token} (h : ¬ t.isTerm) : noted ctx col t = [] := by
  cases t with
  | command key value => exact absurd rfl h
  | text words => exact absurd rfl h
  | _ => rfl

lemma step_builder (p : Progress) (t : Token) :
    (step ctx col p t).builder = p.builder.take (reading ctx col) t := by
  cases t with
  | command key value =>
    cases hc : Command.ofKey? key with
    | some c => simp [step, Progress.push, Builder.take, reading, interpret?, hc]
    | none => simp [step, Builder.take, reading, interpret?, hc, Builder.push]
  | _ => rfl

lemma step_args (p : Progress) (t : Token) : (step ctx col p t).args = p.args ++ noted ctx col t := by
  cases t with
  | text words => rfl
  | command key value =>
    cases hc : Command.ofKey? key with
    | some c => simp [step, Progress.push, noted, interpret?, hc]
    | none => simp [step, noted, interpret?, hc]
  | _ => exact (List.append_nil p.args).symm

lemma map_contribution (t : Token) :
    (contribution ctx col t).map Bound.condition = reading ctx col t := by
  cases hi : interpret? ctx col t with
  | none => simp [contribution, reading, hi, Reading.map]
  | some i =>
    obtain ⟨r, values⟩ := i
    cases r <;> simp [contribution, reading, hi, Reading.map]

end

lemma Interpretation.Filled.carries {α β : Type} {i : Interpretation} (h : i.Filled)
    {g : Condition → α} {φ : α → List β} {notes : List β}
    (hcondition : ∀ c, i.values.length = Test.places c.pieces → notes = φ (g c))
    (hnil : i.values = [] → notes = []) : (i.reading.map g).Carries φ notes := by
  obtain ⟨r, values⟩ := i
  cases r with
  | condition c => exact hcondition c h
  | everything => exact hnil h
  | invalid => exact hnil h

lemma carries_values {i : Interpretation} (h : i.Filled) :
    (i.reading.map (⟨·, i.values⟩)).Carries Bound.values i.values :=
  h.carries (fun _ _ => rfl) id

lemma carries_contribution (ctx : Context) (col : Collection) (t : Token) :
    (contribution ctx col t).Carries Bound.values (noted ctx col t) := by
  cases hi : interpret? ctx col t with
  | none =>
    simp only [contribution, noted, hi]
    rfl
  | some i =>
    simp only [contribution, noted, hi]
    exact carries_values (filled_interpret? hi)

structure Tracks (p : Progress) (b : Builder Bound) : Prop where
  builder : p.builder = b.map Bound.condition
  args : Builder.Noted Bound.values p.args b

lemma Tracks.empty : Tracks .empty .empty := ⟨rfl, fun _ => rfl⟩

namespace Tracks

variable {p : Progress} {b : Builder Bound}

lemma push (h : Tracks p b) {i : Interpretation} (hi : i.Filled) :
    Tracks (p.push i) (b.push (i.reading.map (⟨·, i.values⟩))) := by
  refine ⟨?_, h.args.push (carries_values hi)⟩
  have hread : (i.reading.map (⟨·, i.values⟩)).map Bound.condition = i.reading := by
    cases i.reading <;> rfl
  rw [← Builder.map_push, hread, ← h.builder]
  rfl

variable {ctx : Context} {col : Collection}

lemma step (h : Tracks p b) (t : Token) :
    Tracks (step ctx col p t) (b.take (contribution ctx col) t) := by
  constructor
  · rw [step_builder, h.builder]
    exact Builder.map_take Bound.condition (map_contribution ctx col t) b
  · rw [step_args]
    exact h.args.take (carries_contribution ctx col) (fun _ => noted_mark ctx col) t

theorem run (ctx : Context) (col : Collection) (ts : List Token) :
    Tracks (ts.foldl (Query.step ctx col) .empty)
      (Builder.empty.takeAll (contribution ctx col) ts) := by
  suffices ∀ p b, Tracks p b →
      Tracks (ts.foldl (Query.step ctx col) p) (b.takeAll (contribution ctx col) ts) from
    this _ _ .empty
  induction ts with
  | nil => exact fun p b h => h
  | cons t ts ih => exact fun p b h => ih _ _ (h.step t)

lemma finish (h : Tracks p b) (hv : b.invalid = false) :
    p.finish = some (.ofBound b.pieces) := by
  have hargs : p.args = Bound.valuesOf b.pieces := (h.args hv).trans (Bound.collect_values _)
  simp [Progress.finish, h.builder, hargs, Builder.map, hv, Predicate.ofBound]

end Tracks

lemma fieldTerms_run {ctx : Context} {col : Collection} {ts : List Token}
    (h : ∀ t ∈ ts, t.isTerm → (interpret? ctx col t).isSome) (p : Progress) :
    (ts.foldl (step ctx col) p).fieldTerms = p.fieldTerms := by
  induction ts generalizing p with
  | nil => rfl
  | cons t ts ih =>
    rw [List.foldl_cons, ih fun t ht => h t (List.mem_cons_of_mem _ ht)]
    cases t with
    | command key value =>
      have hk : (Command.ofKey? key).isSome := by
        simpa [interpret?] using h (.command key value) (by simp) rfl
      obtain ⟨c, hc⟩ := Option.isSome_iff_exists.mp hk
      simp [step, hc, Progress.push]
    | _ => rfl

end Query

end CardQuery
