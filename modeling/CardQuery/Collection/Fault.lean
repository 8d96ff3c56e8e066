namespace CardQuery

inductive Fault where
  | otherNoteType (note noteType expected : Int)
  | fieldCount (note : Int) (count : Nat) (noteType : String) (expected : Nat)
  | noSortField (noteType : String) (position count : Nat)
  | storedFieldCount (note : Int) (count : Nat) (noteType : Int) (expected : Nat)
  | noField (note : Int) (position : Nat)
  | unknownNoteType (note noteType : Int)
  | badPattern
  | overlongPattern
  | oversizedProbe
  | refusedEdit (note : Int)
  deriving DecidableEq, Repr

namespace Fault

def schema (detail : String) : String := "Schema inconsistency: " ++ detail

def message : Fault → String
  | otherNoteType note noteType expected =>
    schema s!"note {note} belongs to note type {noteType}, not {expected}"
  | fieldCount note count noteType expected =>
    schema s!"note {note} has {count} fields, note type {noteType} defines {expected}"
  | noSortField noteType position count =>
    schema s!"note type {noteType} has sort field {position} but the note has {count} fields"
  | storedFieldCount note count noteType expected =>
    schema s!"note {note} has {count} fields but note type {noteType} defines {expected}"
  | noField note position => schema s!"note {note} has no field at position {position}"
  | unknownNoteType note noteType => schema s!"note {note} has unknown note type {noteType}"
  | badPattern => "Invalid pattern"
  | overlongPattern => "Database error"
  | oversizedProbe => "Database error"
  | refusedEdit _ => "Database error"

theorem map_eq_ok {α β : Type} {f : α → β} {r : Except Fault α} {b : β} :
    r.map f = .ok b ↔ ∃ a, r = .ok a ∧ f a = b := by
  cases r <;> simp [Except.map]

end Fault

end CardQuery
