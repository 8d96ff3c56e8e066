import CardQuery.Predicate.Formula

namespace CardQuery

inductive Reading (α : Type) where
  | condition (a : α)
  | everything
  | invalid
  deriving DecidableEq, Repr

def Reading.ofText (s : String) : Reading String :=
  if s.isEmpty then .invalid else .condition s

/-- The pieces so far and the marks waiting for the next term. Once `invalid`, the pieces stay as
they are. -/
structure Builder (α : Type) where
  pieces : List (Piece α)
  negateNext : Bool
  disjoinNext : Bool
  needsConnective : Bool
  invalid : Bool
  deriving DecidableEq, Repr

namespace Builder

variable {α : Type}

def empty : Builder α := ⟨[], false, false, false, false⟩

def lead (b : Builder α) : List (Piece α) :=
  (if b.needsConnective then [if b.disjoinNext then .or else .and] else []) ++
    (if b.negateNext then [.not] else [])

def emit (b : Builder α) (p : Piece α) : Builder α :=
  { b with
    pieces := b.pieces ++ b.lead ++ [p]
    negateNext := false
    disjoinNext := b.disjoinNext && !b.needsConnective
    needsConnective := true }

def push (b : Builder α) (r : Reading α) : Builder α :=
  if b.invalid then b
  else match r with
    | .everything => b
    | .condition a => b.emit (.term a)
    | .invalid => if b.negateNext then { b with negateNext := false } else { b with invalid := true }

def openGroup (b : Builder α) : Builder α :=
  { (if b.invalid then b else b.emit .opening) with needsConnective := false }

def closeGroup (b : Builder α) : Builder α :=
  if b.invalid then b else { b with pieces := b.pieces ++ [.closing] }

def negate (b : Builder α) : Builder α := { b with negateNext := true }

def disjoin (b : Builder α) : Builder α := { b with disjoinNext := true }

end Builder

namespace Piece

variable {α β : Type}

def text (termText : α → String) : Piece α → String
  | opening => "("
  | closing => ")"
  | and => " and "
  | or => " or "
  | not => " not "
  | term a => termText a

def textOf (termText : α → String) (ps : List (Piece α)) : String :=
  String.join (ps.map (text termText))

def expand (pieces : α → List (Piece β)) : Piece α → List (Piece β)
  | opening => [opening]
  | closing => [closing]
  | and => [and]
  | or => [or]
  | not => [not]
  | term a => pieces a

def enclose (ps : List (Piece α)) : List (Piece α) := opening :: ps ++ [closing]

end Piece

end CardQuery
