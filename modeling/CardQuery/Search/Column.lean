import CardQuery.Query.Condition

namespace CardQuery

inductive CardColumn where
  | id
  | nid
  | did
  | ord
  | mod
  | usn
  | type
  | queue
  | due
  | ivl
  | factor
  | reps
  | lapses
  | odid
  deriving DecidableEq, Repr

inductive NoteColumn where
  | id
  | mid
  | mod
  | usn
  | tags
  | flds
  | sfld
  | csum
  deriving DecidableEq, Repr

inductive Column where
  | card (c : CardColumn)
  | note (c : NoteColumn)
  deriving DecidableEq, Repr

inductive Cell where
  | int (n : Int)
  | text (s : String)
  deriving DecidableEq, Repr

namespace CardColumn

def name : CardColumn → String
  | id => "id"
  | nid => "nid"
  | did => "did"
  | ord => "ord"
  | mod => "mod"
  | usn => "usn"
  | type => "type"
  | queue => "queue"
  | due => "due"
  | ivl => "ivl"
  | factor => "factor"
  | reps => "reps"
  | lapses => "lapses"
  | odid => "odid"

def all : List CardColumn :=
  [id, nid, did, ord, mod, usn, type, queue, due, ivl, factor, reps, lapses, odid]

def ofName? (s : String) : Option CardColumn := all.find? (·.name == s)

def value : CardColumn → Card → Int
  | id, c => c.id
  | nid, c => c.note
  | did, c => c.deck
  | ord, c => c.ord
  | mod, c => c.modified
  | usn, _ => 0
  | type, c => c.type
  | queue, c => c.queue
  | due, c => c.due
  | ivl, c => c.interval
  | factor, c => c.factor
  | reps, c => c.repetitions
  | lapses, c => c.lapses
  | odid, c => c.homeDeck

end CardColumn

namespace NoteColumn

def name : NoteColumn → String
  | id => "id"
  | mid => "mid"
  | mod => "mod"
  | usn => "usn"
  | tags => "tags"
  | flds => "flds"
  | sfld => "sfld"
  | csum => "csum"

def all : List NoteColumn := [id, mid, mod, usn, tags, flds, sfld, csum]

def ofName? (s : String) : Option NoteColumn := all.find? (·.name == s)

def value : NoteColumn → Note → Cell
  | id, n => .int n.id
  | mid, n => .int n.noteType
  | mod, n => .int n.modified
  | usn, n => .int n.usn
  | tags, n => .text n.tags
  | flds, n => .text n.blob
  | sfld, n => .text n.sortText
  | csum, n => .int n.checksum

end NoteColumn

namespace Column

def text : Column → String
  | card c => "c." ++ c.name
  | note c => "n." ++ c.name

def value : Column → Row → Option Cell
  | card c, row => some (.int (c.value row.card))
  | note c, row => row.note.map c.value

end Column

end CardQuery
