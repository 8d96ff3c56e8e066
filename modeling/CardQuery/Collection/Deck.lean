import CardQuery.Collection.NoteType
import CardQuery.Text.Compare

namespace CardQuery

structure Deck where
  id : Int
  name : String
  deriving DecidableEq, Repr

structure Decks where
  all : List Deck
  current : Int
  deriving DecidableEq, Repr

namespace Decks

def idOf? (ds : Decks) (name : String) : Option Int :=
  (ds.all.find? (sameName ·.name name)).map Deck.id

def name? (ds : Decks) (id : Int) : Option String :=
  (ds.all.find? (·.id == id)).map Deck.name

def isBelow (parent : String) (d : Deck) : Bool :=
  ((Text.lower parent).toList ++ [':', ':']).isPrefixOf (Text.lower d.name).toList

def below (ds : Decks) (parent : String) : List Deck :=
  Sorting.sort (fun a b => Text.compare a.name.toList b.name.toList != .gt)
    (ds.all.filter (isBelow parent))

def subtree? (ds : Decks) (id : Int) : Option (List Int) :=
  (ds.name? id).map fun name => id :: (ds.below name).map Deck.id

end Decks

end CardQuery
