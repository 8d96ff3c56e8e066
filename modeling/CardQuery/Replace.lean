import CardQuery.Pattern.Substitution
import CardQuery.Search.Find

/-!
Replacing text in the fields of many notes at once. Edits are staged note by note and then written in
one transaction: either every note that changes is stored, or none is.
-/

namespace CardQuery

structure ReplaceOptions where
  isRegex : Bool
  field : Option String
  ignoreCase : Bool
  deriving DecidableEq, Repr

structure NoteEdit where
  id : Int
  blob : String
  sortText : String
  checksum : Int
  modified : Int
  usn : Int
  deriving DecidableEq, Repr

namespace NoteEdit

def write (e : NoteEdit) (n : Note) : Note :=
  if n.id = e.id then
    { n with
      blob := e.blob
      sortText := e.sortText
      checksum := e.checksum
      modified := e.modified
      usn := e.usn }
  else n

theorem id_write (e : NoteEdit) (n : Note) : (e.write n).id = n.id := by
  rw [write]
  split <;> rfl

end NoteEdit

namespace Replace

open Pattern

def editor? (o : ReplaceOptions) (target replacement : String) : Option (String → String) :=
  (Regex.read? o.ignoreCase (if o.isRegex then target else escape target)).map fun r value =>
    let pieces := Replacement.pieces 0 replacement.toList
    let insert := fun groups =>
      if o.isRegex then Replacement.expand r.names groups pieces else replacement.toList
    String.ofList (replaceAll r.tree insert value.toList)

def positions (types : List NoteType) (field : String) : List (Int × Nat) :=
  types.filterMap fun t => (t.fields.findIdx? (· == field)).map fun i => (t.id, i)

def position? (ps : List (Int × Nat)) (noteType : Int) : Option Nat :=
  (ps.reverse.find? (·.1 == noteType)).map (·.2)

def edited? (edit : String → String) (ps : Option (List (Int × Nat))) (n : Note) :
    Except Fault (Option (List String)) :=
  match ps with
  | none => .ok (some (n.fields.map edit))
  | some ps => match position? ps n.noteType with
    | none => .ok none
    | some i => if i < n.fields.length then .ok (some (n.fields.modify i edit))
      else .error (.noField n.id i)

def change? (ctx : Context) (now : Int) (edit : String → String)
    (ps : Option (List (Int × Nat))) (n : Note) : Except Fault (Option NoteEdit) :=
  match edited? edit ps n with
  | .error e => .error e
  | .ok none => .ok none
  | .ok (some fields) =>
    if fields = n.fields then .ok none
    else match NoteType.find? ctx.noteTypes n.noteType with
      | none => .error (.unknownNoteType n.id n.noteType)
      | some t => (t.derive fields).map fun (sortText, checksum) => some
          { id := n.id
            blob := Fields.join fields
            sortText := sortText
            checksum := checksum
            modified := now
            usn := ctx.usn }

def stage (ctx : Context) (now : Int) (edit : String → String)
    (ps : Option (List (Int × Nat))) : List Note → Except Fault (List NoteEdit)
  | [] => .ok []
  | n :: ns => match change? ctx now edit ps n with
    | .error e => .error e
    | .ok none => stage ctx now edit ps ns
    | .ok (some m) => (stage ctx now edit ps ns).map (m :: ·)

/-- Writes staged edits one after another. The database may refuse one, and then has none of them. -/
def transact (refuses : NoteEdit → Bool) (notes : Table Note) : List NoteEdit →
    Except Fault (Table Note)
  | [] => .ok notes
  | e :: es =>
    if refuses e then .error (.refusedEdit e.id)
    else transact refuses (notes.update e.write e.id_write) es

structure Effects where
  collection : Collection
  notices : List (List Int)

def inNotes (refuses : NoteEdit → Bool) (ctx : Context) (now : Int) (ids : List Int)
    (target replacement : String) (o : ReplaceOptions) (s : Effects) : Except Fault Nat × Effects :=
  let ps := o.field.map (positions ctx.noteTypes)
  if ps = some [] then (.ok 0, s)
  else match editor? o target replacement with
    | none => (.error .badPattern, s)
    | some edit => match stage ctx now edit ps (s.collection.notesOf ids) with
      | .error e => (.error e, s)
      | .ok [] => (.ok 0, s)
      | .ok (e :: es) => match transact refuses s.collection.notes (e :: es) with
        | .error fault => (.error fault, s)
        | .ok notes => (.ok (e :: es).length,
            ⟨{ s.collection with notes }, s.notices ++ [(e :: es).map NoteEdit.id]⟩)

def inMatching (refuses : NoteEdit → Bool) (ctx : Context) (now : Int) (query : String)
    (target replacement : String) (o : ReplaceOptions) (s : Effects) : Except Fault Nat × Effects :=
  match Search.findNotes ctx s.collection query with
  | .error e => (.error e, s)
  | .ok ids => inNotes refuses ctx now ids target replacement o s

end Replace

end CardQuery
