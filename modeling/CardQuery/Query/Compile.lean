import CardQuery.Query.Card
import CardQuery.Query.Command
import CardQuery.Query.Deck
import CardQuery.Query.FieldProbe
import CardQuery.Query.Note
import CardQuery.Query.Token

/-!
From a query to a predicate. Field terms are set aside, resolved together, and added as the last
term.
-/

namespace CardQuery

structure Predicate where
  pieces : List (Piece Condition)
  args : List String

namespace Predicate

def atoms (p : Predicate) : List (Piece Atom) :=
  p.pieces.flatMap (Piece.expand fun c => Piece.enclose c.pieces)

def text (p : Predicate) : String := Piece.textOf Atom.text p.atoms

end Predicate

namespace Query

def command (ctx : Context) (col : Collection) (value : String) : Command → Interpretation
  | .added => .plain (added ctx.schedule value)
  | .card => .plain (template ctx.noteTypes value)
  | .cid => .plain (idsOf .cards value)
  | .deck => .plain (deck ctx.decks value)
  | .dupe => .plain (duplicate col value)
  | .is => .plain (state ctx.schedule value)
  | .mid => .plain (noteTypeId value)
  | .nid => .plain (idsOf .notes value)
  | .note => .plain (noteTypeNamed ctx.noteTypes value)
  | .prop => .plain (property ctx.schedule value)
  | .rated => .plain (rated ctx.schedule value)
  | .tag => tag value

structure Progress where
  builder : Builder Condition
  args : List String
  fieldTerms : List (String × String)

namespace Progress

def empty : Progress := ⟨.empty, [], []⟩

def push (p : Progress) (i : Interpretation) : Progress :=
  { p with builder := p.builder.push i.reading, args := p.args ++ i.values }

def finish (p : Progress) : Option Predicate :=
  if p.builder.invalid then none else some ⟨p.builder.pieces, p.args⟩

end Progress

def step (ctx : Context) (col : Collection) (p : Progress) : Token → Progress
  | .minus => { p with builder := p.builder.negate }
  | .or => { p with builder := p.builder.disjoin }
  | .opening => { p with builder := p.builder.openGroup }
  | .closing => { p with builder := p.builder.closeGroup }
  | .text words => p.push (text words)
  | .command key value => match Command.ofKey? key with
    | some c => p.push (command ctx col value c)
    | none => { p with fieldTerms := p.fieldTerms ++ [(key, value)] }

def compileTokens (ctx : Context) (col : Collection) (tokens : List Token) :
    Except Fault (Option Predicate) :=
  let p := tokens.foldl (step ctx col) .empty
  if p.fieldTerms.isEmpty || p.builder.invalid then .ok p.finish
  else match fieldTerms ctx.noteTypes col p.fieldTerms with
    | .error e => .error e
    | .ok reading => .ok (p.push (.plain reading)).finish

def compile (ctx : Context) (col : Collection) (query : String) : Except Fault (Option Predicate) :=
  compileTokens ctx col (Token.ofQuery query)

end Query

end CardQuery
