import CardQuery.Predicate.Builder
import CardQuery.Query.Condition
import CardQuery.Text.Split

namespace CardQuery.Query

structure Interpretation where
  reading : Reading Condition
  values : List String

def Interpretation.plain (r : Reading Condition) : Interpretation := ⟨r, []⟩

def templateCards (types : List NoteType) (name : String) : List TemplateCards :=
  types.flatMap fun t => (t.templates.filter (sameName ·.name name)).map fun tm =>
    ⟨t.id, if t.kind = .cloze then none else some tm.ord⟩

/-- A number counts templates from one; anything else is a template's name. -/
def template (types : List NoteType) (value : String) : Reading Condition :=
  match Number.readText? value with
  | some n => match Number.sub? n 1 with
    | some ord => .condition (.ord ord)
    | none => .invalid
  | none => match templateCards types value with
    | [] => .invalid
    | c :: cs => .condition (.templates c cs)

def noteTypeNamed (types : List NoteType) (value : String) : Reading Condition :=
  .condition (.noteTypes ((types.filter (sameName ·.name value)).map NoteType.id))

def noteTypeId (value : String) : Reading Condition :=
  match Digits.ofChars? value.toList with
  | some id => .condition (.noteType id)
  | none => .invalid

def ids? (value : String) : Option (List Int) :=
  if value.toList.all fun c => c.isDigit || c == ',' then
    (Text.splitOn ',' value.toList).mapM Number.read?
  else none

def idsOf (condition : List Int → Condition) (value : String) : Reading Condition :=
  match ids? value with
  | some ids => .condition (condition ids)
  | none => .invalid

def starsToPercent (s : List Char) : List Char := s.map fun c => if c = '*' then '%' else c

def tagPattern (value : String) : String :=
  let p := starsToPercent value.toList
  let p := if p.head? = some '%' then p else '%' :: ' ' :: p
  String.ofList (if p.getLast? = some '%' then p else p ++ [' ', '%'])

def tag (value : String) : Interpretation :=
  if value = "none" then ⟨.condition .untagged, []⟩
  else ⟨.condition .tagged, [tagPattern value]⟩

def textPattern (value : String) : String :=
  String.ofList ('%' :: starsToPercent value.toList ++ ['%'])

def text (value : String) : Interpretation :=
  ⟨.condition .contains, [textPattern value, textPattern value]⟩

def duplicate (col : Collection) (value : String) : Reading Condition :=
  match Text.splitOnce ',' value.toList with
  | none => .invalid
  | some (noteType, first) => match Number.read? noteType with
    | none => .invalid
    | some noteType =>
      let first := String.ofList first
      let candidates := col.notesWithChecksum noteType (Fields.checksum first)
      let same := candidates.filter fun n =>
        n.fields.head?.any (Markup.stripKeepingImages · == first)
      .condition (.notes (same.map Note.id))

end CardQuery.Query
