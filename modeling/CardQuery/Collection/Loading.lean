import CardQuery.Collection.Config
import CardQuery.Collection.Deck
import CardQuery.Json.Reader
import CardQuery.Json.Record

namespace CardQuery

open Json

def NoteKind.ofName? : String → Option NoteKind
  | "standard" => some .standard
  | "cloze" => some .cloze
  | _ => none

def NoteKind.ofJson? : Json → Option NoteKind
  | .string s => s.bind NoteKind.ofName?
  | .object [(some name, .null)] => NoteKind.ofName? name
  | _ => none

def Template.ofJson? (v : Json) : Option Template := do
  match ← record? ["name", "ord"] v with
  | [name, ord] => return ⟨← required text? name, ← required int32? ord⟩
  | _ => none

def NoteType.ofJson? (v : Json) : Option NoteType := do
  match ← record? ["id", "name", "kind", "fields", "templates", "sort_idx"] v with
  | [id, name, kind, fields, templates, sortField] =>
    return {
      id := ← required int64? id
      name := ← required text? name
      kind := ← withDefault .standard NoteKind.ofJson? kind
      fields := ← required (list? text?) fields
      templates := ← required (list? Template.ofJson?) templates
      sortField := ← withDefault 0 size? sortField }
  | _ => none

def Deck.ofJson? (v : Json) : Option Deck := do
  match ← record? ["id", "name"] v with
  | [id, name] => return ⟨← required int64? id, ← required text? name⟩
  | _ => none

def Config.ofJson? (v : Json) : Option Config := do
  match ← record? ["sortType", "sortBackwards"] v with
  | [sortType, sortBackwards] =>
    return ⟨← withDefault Config.default.sortType text? sortType,
      ← withDefault Config.default.sortBackwards bool? sortBackwards⟩
  | _ => none

def NoteType.listOfJson? : Json → Option (List NoteType) := list? NoteType.ofJson?

def Deck.listOfJson? : Json → Option (List Deck) := list? Deck.ofJson?

end CardQuery
