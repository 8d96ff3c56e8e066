/-!
Boolean formulas, and the way a written sequence of pieces is read as one: `not` binds tightest, then
`and`, then `or`.
-/

namespace CardQuery

inductive Piece (α : Type) where
  | opening
  | closing
  | and
  | or
  | not
  | term (a : α)
  deriving DecidableEq, Repr

inductive Formula (α : Type) where
  | term (a : α)
  | not (f : Formula α)
  | and (f g : Formula α)
  | or (f g : Formula α)
  deriving DecidableEq, Repr

namespace Formula

variable {α : Type}

structure Before (α : Type) where
  alternatives : Option (Formula α)
  conjunction : Option (Formula α)
  negations : Nat

def Before.start : Before α := ⟨none, none, 0⟩

def negate : Nat → Formula α → Formula α
  | 0, f => f
  | n + 1, f => .not (negate n f)

def join (connect : Formula α → Formula α → Formula α) : Option (Formula α) → Formula α → Formula α
  | none, f => f
  | some g, f => connect g f

def Before.conjoin (b : Before α) (f : Formula α) : Formula α := join .and b.conjunction f

def Before.complete (b : Before α) (f : Formula α) : Formula α :=
  join .or b.alternatives (b.conjoin f)

/-- Reads on. `outer` holds what stands before each open group, the innermost first, `b` what stands
before the operand under way, and `operand` that operand once it is complete. -/
def read? (outer : List (Before α)) (b : Before α) (operand : Option (Formula α)) :
    List (Piece α) → Option (Formula α)
  | [] => if outer.isEmpty then operand.map b.complete else none
  | p :: ps =>
    match operand, p with
    | none, .term a => read? outer b (some (negate b.negations (.term a))) ps
    | none, .not => read? outer { b with negations := b.negations + 1 } none ps
    | none, .opening => read? (b :: outer) .start none ps
    | some f, .and => read? outer ⟨b.alternatives, some (b.conjoin f), 0⟩ none ps
    | some f, .or => read? outer ⟨some (b.complete f), none, 0⟩ none ps
    | some f, .closing => match outer with
      | [] => none
      | o :: outer => read? outer o (some (negate o.negations (b.complete f))) ps
    | _, _ => none

def ofPieces? (ps : List (Piece α)) : Option (Formula α) := read? [] .start none ps

def holds? (test : α → Option Bool) : Formula α → Option Bool
  | term a => test a
  | not f => (f.holds? test).map (!·)
  | and f g => match f.holds? test with
    | some true => g.holds? test
    | answer => answer
  | or f g => match f.holds? test with
    | some false => g.holds? test
    | answer => answer

end Formula

end CardQuery
