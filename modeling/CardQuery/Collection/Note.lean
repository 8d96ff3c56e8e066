import CardQuery.Collection.Fault
import CardQuery.Collection.Fields
import CardQuery.Collection.NoteType
import CardQuery.Collection.Table

/-!
Notes. A stored note keeps its field values in one blob, beside a sort text and a checksum that are
derived from them.
-/

namespace CardQuery

structure Note where
  id : Int
  noteType : Int
  modified : Int
  usn : Int
  tags : String
  blob : String
  sortText : String
  checksum : Int
  deriving DecidableEq, Repr

instance : Keyed Note := ⟨Note.id⟩

def Note.fields (n : Note) : List String := Fields.split n.blob

structure NewNote where
  id : Int
  noteType : Int
  modified : Int
  fields : List String
  tags : List String
  deriving DecidableEq, Repr

namespace NoteType

def derive (t : NoteType) (fields : List String) : Except Fault (String × Int) :=
  match fields[t.sortField]? with
  | none => .error (.noSortField t.name t.sortField fields.length)
  | some value => .ok (Markup.stripKeepingImages value, Fields.checksum (fields.headD ""))

end NoteType

def NewNote.stored (t : NoteType) (n : NewNote) : Except Fault Note :=
  if n.noteType ≠ t.id then .error (.otherNoteType n.id n.noteType t.id)
  else if n.fields.length ≠ t.fields.length then
    .error (.fieldCount n.id n.fields.length t.name t.fields.length)
  else (t.derive n.fields).map fun (sortText, checksum) =>
    { id := n.id, noteType := n.noteType, modified := n.modified, usn := 0
      tags := Tags.canonical n.tags, blob := Fields.join n.fields, sortText, checksum }

end CardQuery
