namespace CardQuery

inductive Command where
  | added
  | card
  | cid
  | deck
  | dupe
  | is
  | mid
  | nid
  | note
  | prop
  | rated
  | tag
  deriving DecidableEq, Repr

namespace Command

def key : Command → String
  | added => "added"
  | card => "card"
  | cid => "cid"
  | deck => "deck"
  | dupe => "dupe"
  | is => "is"
  | mid => "mid"
  | nid => "nid"
  | note => "note"
  | prop => "prop"
  | rated => "rated"
  | tag => "tag"

def all : List Command :=
  [added, card, cid, deck, dupe, is, mid, nid, note, prop, rated, tag]

def ofKey? (key : String) : Option Command := all.find? (·.key == key)

end Command

end CardQuery
