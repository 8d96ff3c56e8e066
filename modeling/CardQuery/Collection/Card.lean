import CardQuery.Collection.Table

namespace CardQuery

structure Card where
  id : Int
  note : Int
  deck : Int
  ord : Int
  modified : Int
  type : Int
  queue : Int
  due : Int
  interval : Int
  factor : Int
  repetitions : Int
  lapses : Int
  homeDeck : Int
  deriving DecidableEq, Repr

instance : Keyed Card := ⟨Card.id⟩

structure Review where
  id : Int
  card : Int
  ease : Int
  deriving DecidableEq, Repr

instance : Keyed Review := ⟨Review.id⟩

def suspendedQueue : Int := -1

end CardQuery
