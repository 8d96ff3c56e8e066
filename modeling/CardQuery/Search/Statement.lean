import CardQuery.Query.Compile
import CardQuery.Search.Order

namespace CardQuery

inductive Projection where
  | cards
  | notes
  | browser
  deriving DecidableEq, Repr

namespace Projection

def select : Projection → String
  | cards => "select c.id"
  | notes => "select distinct(n.id)"
  | browser => "select c.id, n.sfld, c.did, c.queue, n.tags"

def scope (p : Projection) (predicate order : String) : Scope :=
  let speaksOfNotes := fun (s : String) => Text.contains ['n', '.'] s.toList
  if p = cards ∧ !speaksOfNotes predicate ∧ !speaksOfNotes order then .cards else .cardsWithNotes

def order (p : Projection) (o : String) : String := if p = notes then "" else o

end Projection

namespace Statement

def scopeText : Scope → String
  | .cards => " from cards c where "
  | .cardsWithNotes => " from cards c, notes n where c.nid=n.id and "

def text (p : Projection) (predicate order : String) : String :=
  let order := p.order order
  p.select ++ scopeText (p.scope predicate order) ++
    (if predicate.isEmpty then "1" else "(" ++ predicate ++ ")") ++ order

/-- The whole condition of a statement. The predicate stands in one pair of parentheses beside the
condition that joins a card to its note. -/
def pieces (scope : Scope) (p : Predicate) : List (Piece Atom) :=
  (match scope with
    | .cards => []
    | .cardsWithNotes => [.term .ownNote, .and]) ++
  (if p.pieces.isEmpty then [.term .always] else Piece.enclose p.atoms)

def rows (col : Collection) : Scope → List Row
  | .cards => col.cards.rows.map (⟨·, none⟩)
  | .cardsWithNotes => col.cards.rows.flatMap fun c => col.notes.rows.map fun n => ⟨c, some n⟩

def formula? (scope : Scope) (p : Predicate) : Option (Formula Test) :=
  (Formula.ofPieces? (Test.bind p.args (pieces scope p))).filter (·.fits Test.extent? p.args.length)

/-- The rows a statement selects, in order; `none` when the statement cannot be run. -/
def run? (col : Collection) (p : Projection) (predicate : Predicate) (order : Order) :
    Option (List Row) := do
  let scope := p.scope predicate.text (p.order order.clause)
  let formula ← formula? scope predicate
  let keys ← if p = .notes then some [] else order.keys? scope
  let found ← Table.keep? (fun row => formula.evaluate? Test.isVain (Test.holds? col.reviews.rows row))
    (rows col scope)
  return SortKey.sort keys found

end Statement

end CardQuery
