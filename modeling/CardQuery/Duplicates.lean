import CardQuery.Search.Find

namespace CardQuery

structure DuplicateGroup where
  value : String
  notes : List Int
  deriving DecidableEq, Repr

namespace Duplicates

def value? (types : List NoteType) (field : String) (n : Note) : Except Fault (Option String) :=
  match NoteType.find? types n.noteType with
  | none => .error (.unknownNoteType n.id n.noteType)
  | some t =>
    let value := (t.fieldPosition? field).bind fun i => n.fields[i]?
    .ok ((value.map Markup.stripKeepingImages).filter fun v => !v.toList.all Text.isBlank)

def values (types : List NoteType) (field : String) :
    List Note → Except Fault (List (Int × String))
  | [] => .ok []
  | n :: ns => match value? types field n with
    | .error e => .error e
    | .ok none => values types field ns
    | .ok (some v) => (values types field ns).map ((n.id, v) :: ·)

/-- The ids seen so far beside each value, and a group for each value that was seen a second time. -/
structure Tally where
  seen : List (String × List Int)
  groups : List DuplicateGroup

namespace Tally

def empty : Tally := ⟨[], []⟩

def put (value : String) (id : Int) : List (String × List Int) → List (String × List Int)
  | [] => [(value, [id])]
  | (v, ids) :: seen => if v = value then (v, ids ++ [id]) :: seen else (v, ids) :: put value id seen

def add (t : Tally) : Int × String → Tally
  | (id, value) =>
    let seen := put value id t.seen
    if (seen.lookup value).any (·.length == 2) then ⟨seen, t.groups ++ [⟨value, []⟩]⟩
    else ⟨seen, t.groups⟩

def fill (seen : List (String × List Int)) : List DuplicateGroup → List DuplicateGroup
  | [] => []
  | g :: gs => match seen.lookup g.value with
    | some ids => { g with notes := ids } :: fill (seen.filter (·.1 != g.value)) gs
    | none => g :: fill seen gs

end Tally

def groups (vs : List (Int × String)) : List DuplicateGroup :=
  let t := vs.foldl Tally.add .empty
  Tally.fill t.seen t.groups

def find (ctx : Context) (col : Collection) (field search : String) :
    Except Fault (List DuplicateGroup) :=
  if ctx.noteTypes.all fun t => (t.fieldPosition? field).isNone then .ok []
  else match Search.findNotes ctx col search with
    | .error e => .error e
    | .ok ids => (values ctx.noteTypes field (col.notesOf ids)).map groups

end Duplicates

end CardQuery
