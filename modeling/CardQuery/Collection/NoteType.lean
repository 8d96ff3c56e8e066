import CardQuery.Text.Case

namespace CardQuery

inductive NoteKind where
  | standard
  | cloze
  deriving DecidableEq, Repr

structure Template where
  name : String
  ord : Int
  deriving DecidableEq, Repr

structure NoteType where
  id : Int
  name : String
  kind : NoteKind
  fields : List String
  templates : List Template
  sortField : Nat
  deriving DecidableEq, Repr

def sameName (a b : String) : Bool := Text.lower a == Text.lower b

namespace NoteType

def fieldPosition? (t : NoteType) (name : String) : Option Nat :=
  t.fields.findIdx? (sameName · name)

def find? (types : List NoteType) (id : Int) : Option NoteType :=
  types.find? (·.id == id)

structure FieldNames where
  names : List String
  lowered : List String
  deriving DecidableEq, Repr

def FieldNames.add (found : FieldNames) (name : String) : FieldNames :=
  let low := Text.lower name
  if found.lowered.contains low then found
  else ⟨found.names ++ [name], found.lowered ++ [low]⟩

def fieldNames (types : List NoteType) (downcase : Bool) : List String :=
  let found := types.foldl (fun found t => t.fields.foldl FieldNames.add found) ⟨[], []⟩
  if downcase then found.lowered else found.names

end NoteType

end CardQuery
