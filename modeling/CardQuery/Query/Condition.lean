import CardQuery.Predicate.Builder
import CardQuery.Query.Atom

namespace CardQuery

structure TemplateCards where
  noteType : Int
  ord : Option Int
  deriving DecidableEq, Repr

inductive Condition where
  | never
  | createdAfter (millis : Int)
  | reviewedAfter (millis : Int) (ease : Option Int)
  | dueDay (rel : Relation) (day : Int)
  | measure (m : Measure) (rel : Relation) (n : Int)
  | state (s : CardState)
  | dueBy (day second : Int)
  | borrowed
  | inDecks (ids : List Int)
  | ord (n : Int)
  | templates (first : TemplateCards) (others : List TemplateCards)
  | noteTypes (ids : List Int)
  | noteType (id : Digits)
  | notes (ids : List Int)
  | cards (ids : List Int)
  | untagged
  | tagged
  | contains

def TemplateCards.pieces (t : TemplateCards) : List (Piece Atom) :=
  match t.ord with
  | none => [.opening, .term (.ofType t.noteType), .closing]
  | some ord => [.opening, .term (.ofType t.noteType), .and, .term (.ord ord), .closing]

namespace Condition

def pieces : Condition → List (Piece Atom)
  | never => [.term .never]
  | createdAfter millis => [.term (.createdAfter millis)]
  | reviewedAfter millis ease => [.term (.reviewedAfter millis ease)]
  | dueDay rel day =>
    [.opening, .term .dueInDays, .closing, .and, .opening, .term (.due rel day), .closing]
  | measure m rel n => [.opening, .term (.measure m rel n), .closing]
  | state s => [.term (.state s)]
  | dueBy day second =>
    [.opening, .term .dueInDays, .and, .term (.due .le day), .closing, .or,
     .opening, .term .dueInSeconds, .and, .term (.due .le second), .closing]
  | borrowed => [.term .borrowed]
  | inDecks ids => [.term (.decks ids), .or, .term (.homeDecks ids)]
  | ord n => [.term (.ord n)]
  | templates first others => first.pieces ++ others.flatMap fun t => .or :: t.pieces
  | noteTypes ids => [.term (.noteTypes ids)]
  | noteType id => [.term (.noteType id)]
  | notes ids => [.term (.notes ids)]
  | cards ids => [.term (.cards ids)]
  | untagged => [.term .untagged]
  | tagged => [.term .tagsLike]
  | contains => [.opening, .term .sortTextLike, .or, .term .blobLike, .closing]

def text (c : Condition) : String := Piece.textOf Atom.text c.pieces

end Condition

end CardQuery
