import CardQuery.Search.Statement

/-!
Searches: the cards or notes a query finds, and the rows shown in a browser. A query that cannot be
read, or whose statement cannot be run, finds nothing.
-/

namespace CardQuery

structure BrowserRow where
  id : Int
  sortText : String
  deckId : Int
  deckName : Option String
  queue : Int
  tags : String
  deriving DecidableEq, Repr

namespace BrowserRow

def isSuspended (r : BrowserRow) : Bool := r.queue == suspendedQueue

def isMarked (r : BrowserRow) : Bool :=
  Text.contains ['m', 'a', 'r', 'k', 'e', 'd'] r.tags.toList ||
    Text.contains ['M', 'a', 'r', 'k', 'e', 'd'] r.tags.toList

def flags (r : BrowserRow) : Nat :=
  (if r.isSuspended then 1 else 0) + (if r.isMarked then 2 else 0)

def ofRow (decks : Decks) (row : Row) : BrowserRow :=
  { id := row.card.id
    sortText := (row.note.map Note.sortText).getD ""
    deckId := row.card.deck
    deckName := decks.name? row.card.deck
    queue := row.card.queue
    tags := (row.note.map Note.tags).getD "" }

end BrowserRow

inductive Listing where
  | rows (rs : List BrowserRow) (polls : Nat)
  | cancelled (polls : Nat)
  deriving DecidableEq, Repr

namespace Search

def arrange {α : Type} (reversed : Bool) (xs : List α) : List α :=
  if reversed then xs.reverse else xs

def findCards (ctx : Context) (col : Collection) (query : String) (request : OrderRequest) :
    Except Fault (List Int) :=
  (Query.compile ctx col query).map fun
    | none => []
    | some predicate =>
      let a := request.resolve ctx.config
      match Statement.run? col .cards predicate a.order with
      | none => []
      | some rows => arrange a.reversed (rows.map (·.card.id))

def findNotes (ctx : Context) (col : Collection) (query : String) : Except Fault (List Int) :=
  (Query.compile ctx col query).map fun
    | none => []
    | some predicate => match Statement.run? col .notes predicate .unordered with
      | none => []
      | some rows => Query.distinct (rows.filterMap fun row => row.note.map Note.id)

/-- Asks `stop` before each row, giving it the number of times it has been asked, this time
included. -/
def list (stop : Nat → Bool) (decks : Decks) (reversed : Bool) (done : List BrowserRow) (polls : Nat) :
    List Row → Listing
  | [] => .rows (if reversed then done else done.reverse) polls
  | row :: rows =>
    if stop (polls + 1) then .cancelled (polls + 1)
    else list stop decks reversed (.ofRow decks row :: done) (polls + 1) rows

def browse (ctx : Context) (col : Collection) (query : String) (request : OrderRequest)
    (stop : Nat → Bool) : Except Fault Listing :=
  (Query.compile ctx col query).map fun
    | none => .rows [] 0
    | some predicate =>
      let a := request.resolve ctx.config
      match Statement.run? col .browser predicate a.order with
      | none => .rows [] 0
      | some rows => list stop ctx.decks a.reversed [] 0 rows

end Search

end CardQuery
