import CardQuery.Pattern.Reader

namespace CardQuery.Pattern

inductive Insertion where
  | char (c : Char)
  | number (n : Nat)
  | name (s : String)
  deriving DecidableEq, Repr

namespace Replacement

def isReferenceChar (c : Char) : Bool := c.isAlphanum || c == '_'

def reference (s : List Char) : Insertion :=
  let digits := match s with
    | '+' :: r => r
    | r => r
  match (Number.natural? digits).filter (· < UInt64.size) with
  | some n => .number n
  | none => .name (String.ofList s)

def reference? (s : List Char) : Option (Insertion × Nat) :=
  match s with
  | '\x7b' :: r =>
    let inner := r.takeWhile (· ≠ '\x7d')
    if inner.length < r.length then some (reference inner, inner.length + 2) else none
  | r =>
    let inner := r.takeWhile isReferenceChar
    if inner.isEmpty then none else some (reference inner, inner.length)

def pieces : Nat → List Char → List Insertion
  | _, [] => []
  | skip + 1, _ :: s => pieces skip s
  | 0, c :: s =>
    if c ≠ '$' then .char c :: pieces 0 s
    else if s.head? = some '$' then .char '$' :: pieces 1 s
    else match reference? s with
      | some (p, n) => p :: pieces n s
      | none => .char '$' :: pieces 0 s

def groupText (groups : List (Nat × List Char)) (n : Nat) : List Char :=
  ((groups.find? (·.1 == n)).map (·.2)).getD []

def expand (names : List (String × Nat)) (groups : List (Nat × List Char)) (ps : List Insertion) :
    List Char :=
  ps.flatMap fun
    | .char c => [c]
    | .number n => groupText groups n
    | .name s => ((names.find? (·.1 == s)).map fun (_, n) => groupText groups n).getD []

end Replacement

/-- Replaces each match by `insert` of its groups. `skip` counts the characters still covered by a
match, `ended` says that a match has ended just here, and `before` is the character passed last. An
empty match counts only where none has just ended. -/
def replaceFrom (t : Tree) (insert : List (Nat × List Char) → List Char) (skip : Nat) (ended : Bool)
    (before : Option Char) : List Char → List Char
  | [] =>
    if skip = 0 ∧ !ended then match t.match? before [] with
      | some p => insert ((0, []) :: p.groups)
      | none => []
    else []
  | c :: s =>
    match skip with
    | skip + 1 => replaceFrom t insert skip ended (some c) s
    | 0 => match t.match? before (c :: s) with
      | none => c :: replaceFrom t insert 0 false (some c) s
      | some p => match p.taken with
        | 0 => (if ended then [] else insert ((0, []) :: p.groups)) ++
            c :: replaceFrom t insert 0 false (some c) s
        | n + 1 => insert ((0, (c :: s).take (n + 1)) :: p.groups) ++
            replaceFrom t insert n true (some c) s

def replaceAll (t : Tree) (insert : List (Nat × List Char) → List Char) (s : List Char) : List Char :=
  replaceFrom t insert 0 false none s

end CardQuery.Pattern
