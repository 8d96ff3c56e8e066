import CardQuery.Predicate.Formula

/-!
How much of the store's limits a formula takes up when it is an expression of a statement.
-/

namespace CardQuery

/-- The constant that is false, or a tree with the height of the tallest condition of a subquery in
it. -/
inductive Extent where
  | vain
  | tree (height inner : Nat)
  deriving DecidableEq, Repr

namespace Extent

def deepest : Nat := 1000

def mostValues : Nat := 32766

def height : Extent → Nat
  | vain => 1
  | tree h _ => h

def inner : Extent → Nat
  | vain => 0
  | tree _ i => i

def tree? (height inner : Nat) : Option Extent :=
  if height ≤ deepest then some (tree height inner) else none

def not? (e : Extent) : Option Extent := tree? (e.height + 1) e.inner

def or? (e e' : Extent) : Option Extent :=
  tree? (max e.height e'.height + 1) (max e.inner e'.inner)

def and? : Extent → Extent → Option Extent
  | vain, _ => some vain
  | _, vain => some vain
  | e, e' => or? e e'

/-- Whether a statement may have such a condition and so many values. The condition of a subquery
counts on top of the whole tree that the subquery stands in. -/
def fits (e : Extent) (values : Nat) : Bool := e.height + e.inner ≤ deepest && values ≤ mostValues

end Extent

namespace Formula

variable {α : Type}

def extent? (leaf : α → Option Extent) : Formula α → Option Extent
  | term a => leaf a
  | not f => (f.extent? leaf).bind Extent.not?
  | and f g => (f.extent? leaf).bind fun e => (g.extent? leaf).bind e.and?
  | or f g => (f.extent? leaf).bind fun e => (g.extent? leaf).bind e.or?

def fits (leaf : α → Option Extent) (values : Nat) (f : Formula α) : Bool :=
  (f.extent? leaf).any (·.fits values)

def isVain (vain : α → Bool) : Formula α → Bool
  | term a => vain a
  | and f g => f.isVain vain || g.isVain vain
  | _ => false

/-- Evaluates as `holds?` does, but never looks into a conjunction with a constant that is false. -/
def evaluate? (vain : α → Bool) (test : α → Option Bool) : Formula α → Option Bool
  | term a => test a
  | not f => (f.evaluate? vain test).map (!·)
  | and f g =>
    if f.isVain vain || g.isVain vain then some false
    else match f.evaluate? vain test with
      | some true => g.evaluate? vain test
      | answer => answer
  | or f g => match f.evaluate? vain test with
    | some false => g.evaluate? vain test
    | answer => answer

end Formula

end CardQuery
