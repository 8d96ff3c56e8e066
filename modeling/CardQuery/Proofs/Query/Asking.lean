import CardQuery.Query.Compile
import Mathlib.Tactic.Common

namespace CardQuery.Query

inductive Asks : Command → Condition → Prop
  | added (millis : Int) : Asks .added (.createdAfter millis)
  | ord (n : Int) : Asks .card (.ord n)
  | templates (first : TemplateCards) (others : List TemplateCards) :
      Asks .card (.templates first others)
  | cards (ids : List Int) : Asks .cid (.cards ids)
  | borrowed : Asks .deck .borrowed
  | decks (ids : List Int) : Asks .deck (.inDecks ids)
  | duplicates (ids : List Int) : Asks .dupe (.notes ids)
  | state (s : CardState) : Asks .is (.state s)
  | due (day second : Int) : Asks .is (.dueBy day second)
  | noteType (id : Digits) : Asks .mid (.noteType id)
  | notes (ids : List Int) : Asks .nid (.notes ids)
  | noteTypes (ids : List Int) : Asks .note (.noteTypes ids)
  | dueDay (rel : Relation) (day : Int) : Asks .prop (.dueDay rel day)
  | measure (m : Measure) (rel : Relation) (n : Int) : Asks .prop (.measure m rel n)
  | rated (millis : Int) (ease : Option Int) : Asks .rated (.reviewedAfter millis ease)
  | untagged : Asks .tag .untagged
  | tagged : Asks .tag .tagged

variable {c : Condition} {schedule : Schedule} {value : String}

lemma ofCondition?_eq_condition {o : Option Condition} (h : ofCondition? o = .condition c) :
    o = some c := by
  cases o with
  | none => cases h
  | some d =>
    cases h
    rfl

lemma ofCondition?_cases (o : Option Condition) :
    ofCondition? o = .invalid ∨ ∃ c, ofCondition? o = .condition c := by
  cases o with
  | none => exact Or.inl rfl
  | some c => exact Or.inr ⟨c, rfl⟩

lemma asks_added (h : added schedule value = .condition c) : Asks .added c := by
  obtain ⟨millis, -, rfl⟩ := Option.map_eq_some_iff.mp (ofCondition?_eq_condition h)
  exact .added millis

lemma asks_rated (h : rated schedule value = .condition c) : Asks .rated c := by
  have h := ofCondition?_eq_condition h
  simp only [Option.bind_eq_bind, Option.bind_eq_some_iff] at h
  obtain ⟨days, -, millis, -, h⟩ := h
  split at h
  · cases h
    exact .rated millis none
  · obtain ⟨ease, -, h⟩ := Option.bind_eq_some_iff.mp h
    cases h
    exact .rated millis (some ease)

lemma asks_comparing {name : String} {rel : Relation} {n : Int}
    (h : comparing schedule name rel n = some c) : Asks .prop c := by
  unfold comparing at h
  split at h
  · obtain ⟨day, -, rfl⟩ := Option.map_eq_some_iff.mp h
    exact .dueDay rel day
  · cases h
    exact .measure .interval rel n
  · cases h
    exact .measure .repetitions rel n
  · cases h
    exact .measure .lapses rel n
  · cases h
    exact .measure .factor rel n
  · cases h

lemma asks_property (h : property schedule value = .condition c) : Asks .prop c := by
  rw [property] at h
  split at h
  · cases h
  · have h := ofCondition?_eq_condition h
    simp only [Option.bind_eq_bind, Option.bind_eq_some_iff] at h
    obtain ⟨⟨name, rel, right⟩, -, h⟩ := h
    split at h
    · obtain ⟨n, -, h⟩ := Option.bind_eq_some_iff.mp h
      exact asks_comparing h
    · obtain ⟨n, -, h⟩ := Option.bind_eq_some_iff.mp h
      exact asks_comparing h

lemma asks_state (h : state schedule value = .condition c) : Asks .is c := by
  unfold state at h
  split at h
  · cases h
    exact .state .new
  · cases h
    exact .state .review
  · cases h
    exact .state .learn
  · cases h
    exact .state .suspended
  · cases h
    exact .state .buried
  · cases h
    exact .due schedule.today schedule.dayCutoff
  · cases h

lemma asks_deck {decks : Decks} (h : deck decks value = .condition c) : Asks .deck c := by
  rw [deck] at h
  split at h
  · cases h
  · split at h
    · cases h
      exact .borrowed
    · split at h
      · cases h
      · cases h
        exact .decks _

lemma asks_template {types : List NoteType} (h : template types value = .condition c) :
    Asks .card c := by
  rw [template] at h
  split at h
  · split at h
    · cases h
      exact .ord _
    · cases h
  · split at h
    · cases h
    · cases h
      exact .templates _ _

lemma asks_noteTypeId (h : noteTypeId value = .condition c) : Asks .mid c := by
  rw [noteTypeId] at h
  split at h
  · cases h
    exact .noteType _
  · cases h

lemma idsOf_eq_condition {condition : List Int → Condition}
    (h : idsOf condition value = .condition c) : ∃ ids, c = condition ids := by
  rw [idsOf] at h
  split at h
  · cases h
    exact ⟨_, rfl⟩
  · cases h

lemma asks_duplicate {col : Collection} (h : duplicate col value = .condition c) :
    Asks .dupe c := by
  rw [duplicate] at h
  split at h
  · cases h
  · split at h
    · cases h
    · cases h
      exact .duplicates _

lemma asks_tag (h : (tag value).reading = .condition c) : Asks .tag c := by
  rw [tag] at h
  split at h
  · cases h
    exact .untagged
  · cases h
    exact .tagged

theorem asks_command {ctx : Context} {col : Collection} {command : Command}
    (h : (Query.command ctx col value command).reading = .condition c) : Asks command c := by
  cases command with
  | added => exact asks_added h
  | card => exact asks_template h
  | cid =>
    obtain ⟨ids, rfl⟩ := idsOf_eq_condition h
    exact .cards ids
  | deck => exact asks_deck h
  | dupe => exact asks_duplicate h
  | is => exact asks_state h
  | mid => exact asks_noteTypeId h
  | nid =>
    obtain ⟨ids, rfl⟩ := idsOf_eq_condition h
    exact .notes ids
  | note =>
    cases h
    exact .noteTypes _
  | prop => exact asks_property h
  | rated => exact asks_rated h
  | tag => exact asks_tag h

end CardQuery.Query
