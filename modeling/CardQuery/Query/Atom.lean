import CardQuery.Collection.Store
import CardQuery.Predicate.Extent
import CardQuery.Text.Like
import CardQuery.Text.Number

namespace CardQuery

inductive Relation where
  | le
  | ge
  | ne
  | eq
  | lt
  | gt
  deriving DecidableEq, Repr

namespace Relation

def text : Relation → String
  | le => "<="
  | ge => ">="
  | ne => "!="
  | eq => "="
  | lt => "<"
  | gt => ">"

def holds : Relation → Int → Int → Bool
  | le, a, b => a ≤ b
  | ge, a, b => b ≤ a
  | ne, a, b => a != b
  | eq, a, b => a == b
  | lt, a, b => a < b
  | gt, a, b => b < a

end Relation

inductive Measure where
  | interval
  | repetitions
  | lapses
  | factor
  deriving DecidableEq, Repr

namespace Measure

def column : Measure → String
  | interval => "ivl"
  | repetitions => "reps"
  | lapses => "lapses"
  | factor => "factor"

def value : Measure → Card → Int
  | interval, c => c.interval
  | repetitions, c => c.repetitions
  | lapses, c => c.lapses
  | factor, c => c.factor

end Measure

inductive CardState where
  | new
  | review
  | learn
  | suspended
  | buried
  deriving DecidableEq, Repr

namespace CardState

def text : CardState → String
  | new => "c.type = 0"
  | review => "c.type = 2"
  | learn => "c.queue in (1, 3)"
  | suspended => "c.queue = -1"
  | buried => "c.queue = -2"

def holds : CardState → Card → Bool
  | new, c => c.type == 0
  | review, c => c.type == 2
  | learn, c => c.queue == 1 || c.queue == 3
  | suspended, c => c.queue == suspendedQueue
  | buried, c => c.queue == -2

end CardState

structure Digits where
  chars : List Char
  isNumeral : (Number.natural? chars).isSome

namespace Digits

def ofChars? (s : List Char) : Option Digits :=
  if h : (Number.natural? s).isSome then some ⟨s, h⟩ else none

def value (d : Digits) : Nat := Number.ofDigits d.chars

end Digits

structure Row where
  card : Card
  note : Option Note

def Row.like? (row : Row) (escape : Option Char) (text : Note → String) : List String → Option Bool
  | [pattern] => row.note.bind fun note => Like.holds? escape pattern (text note)
  | _ => none

inductive Atom where
  | always
  | never
  | ownNote
  | createdAfter (millis : Int)
  | reviewedAfter (millis : Int) (ease : Option Int)
  | dueInDays
  | dueInSeconds
  | due (rel : Relation) (n : Int)
  | measure (m : Measure) (rel : Relation) (n : Int)
  | state (s : CardState)
  | borrowed
  | decks (ids : List Int)
  | homeDecks (ids : List Int)
  | ord (n : Int)
  | ofType (id : Int)
  | noteTypes (ids : List Int)
  | noteType (id : Digits)
  | notes (ids : List Int)
  | cards (ids : List Int)
  | untagged
  | tagsLike
  | sortTextLike
  | blobLike

def idList (ids : List Int) : String := "(" ++ ",".intercalate (ids.map toString) ++ ")"

def membership (column : String) (ids : List Int) : String := column ++ " in " ++ idList ids

namespace Atom

def text : Atom → String
  | always => "1"
  | never => "0"
  | ownNote => "c.nid=n.id"
  | createdAfter millis => s!"c.id > {millis}"
  | reviewedAfter millis ease =>
    let easeText := match ease with
      | none => ""
      | some e => s!" and ease = {e}"
    s!"c.id in (select cid from revlog where id > {millis}{easeText})"
  | dueInDays => "c.queue in (2,3)"
  | dueInSeconds => "c.queue = 1"
  | due rel n => s!"c.due {rel.text} {n}"
  | measure m rel n => s!"c.{m.column} {rel.text} {n}"
  | state s => s.text
  | borrowed => "c.odid"
  | decks ids => membership "c.did" ids
  | homeDecks ids => membership "c.odid" ids
  | ord n => s!"c.ord = {n}"
  | ofType id => s!"n.mid = {id}"
  | noteTypes ids => membership "n.mid" ids
  | noteType id => "n.mid = " ++ String.ofList id.chars
  | notes ids => membership "n.id" ids
  | cards ids => membership "c.id" ids
  | untagged => "n.tags = ''"
  | tagsLike => "n.tags like ?"
  | sortTextLike => "n.sfld like ? escape '\\'"
  | blobLike => "n.flds like ? escape '\\'"

def places : Atom → Nat
  | tagsLike => 1
  | sortTextLike => 1
  | blobLike => 1
  | _ => 0

def literalHeight (n : Int) : Nat := if n < 0 then 2 else 1

/-- A list of one number is compared to that number with a plus before it. -/
def listExtent : List Int → Extent
  | [] => .vain
  | [n] => .tree (literalHeight n + 2) 0
  | _ => .tree 3 0

def extent : Atom → Extent
  | always => .tree 1 0
  | never => .vain
  | borrowed => .tree 2 0
  | reviewedAfter millis ease =>
    let inner := literalHeight millis + if ease.isSome then 2 else 1
    .tree (inner + 1) inner
  | decks ids => listExtent ids
  | homeDecks ids => listExtent ids
  | noteTypes ids => listExtent ids
  | notes ids => listExtent ids
  | cards ids => listExtent ids
  | _ => .tree 3 0

/-- Whether a row meets the atom, with `values` in its open places; `none` when that cannot be
evaluated, because the row has no note, a pattern is too long or a place has no value. -/
def holds? (reviews : List Review) (row : Row) (values : List String) : Atom → Option Bool
  | always => some true
  | never => some false
  | ownNote => row.note.map fun note => row.card.note == note.id
  | createdAfter millis => some (decide (millis < row.card.id))
  | reviewedAfter millis ease => some <| reviews.any fun r =>
      r.card == row.card.id && decide (millis < r.id) && ease.all (r.ease == ·)
  | dueInDays => some (row.card.queue == 2 || row.card.queue == 3)
  | dueInSeconds => some (row.card.queue == 1)
  | due rel n => some (rel.holds row.card.due n)
  | measure m rel n => some (rel.holds (m.value row.card) n)
  | state s => some (s.holds row.card)
  | borrowed => some (row.card.homeDeck != 0)
  | decks ids => some (ids.contains row.card.deck)
  | homeDecks ids => some (ids.contains row.card.homeDeck)
  | ord n => some (row.card.ord == n)
  | ofType id => row.note.map fun note => note.noteType == id
  | noteTypes ids => row.note.map fun note => ids.contains note.noteType
  | noteType id => row.note.map fun note => note.noteType == (id.value : Int)
  | notes ids => row.note.map fun note => ids.contains note.id
  | cards ids => some (ids.contains row.card.id)
  | untagged => row.note.map fun note => note.tags == ""
  | tagsLike => row.like? none Note.tags values
  | sortTextLike => row.like? (some '\\') Note.sortText values
  | blobLike => row.like? (some '\\') Note.blob values

end Atom

structure Test where
  atom : Atom
  values : List String

namespace Test

def holds? (reviews : List Review) (row : Row) (t : Test) : Option Bool :=
  t.atom.holds? reviews row t.values

def extent? (t : Test) : Option Extent := some t.atom.extent

def isVain (t : Test) : Bool := t.atom.extent == .vain

/-- Gives every atom the values for its own places: the values go to the open places of the whole
text, from left to right. -/
def bind : List String → List (Piece Atom) → List (Piece Test)
  | _, [] => []
  | values, .term a :: ps =>
    .term ⟨a, values.take a.places⟩ :: bind (values.drop a.places) ps
  | values, .opening :: ps => .opening :: bind values ps
  | values, .closing :: ps => .closing :: bind values ps
  | values, .and :: ps => .and :: bind values ps
  | values, .or :: ps => .or :: bind values ps
  | values, .not :: ps => .not :: bind values ps

end Test

end CardQuery
