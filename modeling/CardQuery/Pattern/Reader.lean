import CardQuery.Pattern.Class

namespace CardQuery.Pattern

structure Regex where
  tree : Tree
  names : List (String × Nat)

namespace Reader

inductive Item where
  | part (t : Tree) (depth : Nat)
  | flags

structure Outside where
  capture : Option Nat
  flags : Flags
  branches : List (Tree × Nat)
  items : List Item

structure Progress where
  outside : List Outside
  flags : Flags
  branches : List (Tree × Nat)
  items : List Item
  groups : Nat
  names : List (String × Nat)

def deepest : Nat := 250

def heaviest : Nat := 10 * 1024 * 1024

def parts (items : List Item) : List (Tree × Nat) :=
  items.filterMap fun
    | .part t d => some (t, d)
    | .flags => none

def maxDepth (ps : List (Tree × Nat)) : Nat := ps.foldl (fun d p => max d p.2) 0

def combine (unit : Tree) (op : Tree → Tree → Tree) : List (Tree × Nat) → Tree × Nat
  | [] => (unit, 0)
  | [p] => p
  | p :: ps => (ps.foldl (fun t q => op q.1 t) p.1, maxDepth (p :: ps) + 1)

def branch (items : List Item) : Tree × Nat := combine .empty .seq (parts items)

def whole (p : Progress) : Tree × Nat := combine .empty .alt (branch p.items :: p.branches)

def add (p : Progress) (t : Tree) (depth : Nat) : Progress :=
  { p with items := .part t depth :: p.items }

def dot? (f : Flags) : Option CharSet :=
  if !f.unicode then none
  else if f.dotAll then some .all
  else if f.crlf then some (.compl (.union (.char '\n') (.char '\r')))
  else some (.compl (.char '\n'))

def literal (f : Flags) (c : Char) : CharSet :=
  if !f.ignoreCase then .char c
  else if f.unicode then .variants c
  else if c.toNat < 128 then .inter .ascii (.variants c)
  else .char c

def atomTree? (f : Flags) : Atom → Option Tree
  | .char c byte =>
    if byte && !f.unicode && 128 ≤ c.toNat then none else some (.char (literal f c))
  | .set s => some (.char s)
  | .look l => some (.look l)

def lineStart (f : Flags) : Look := if f.multiLine then .lineStart f.crlf else .textStart

def lineEnd (f : Flags) : Look := if f.multiLine then .lineEnd f.crlf else .textEnd

def setFlag? (on : Bool) (f : Flags) : Char → Option Flags
  | 'i' => some { f with ignoreCase := on }
  | 'm' => some { f with multiLine := on }
  | 's' => some { f with dotAll := on }
  | 'U' => some { f with swapGreed := on }
  | 'u' => some { f with unicode := on }
  | 'x' => some { f with ignoreSpace := on }
  | 'R' => some { f with crlf := on }
  | _ => none

def settings? (on : Bool) (seen : List Char) (f : Flags) : List Char → Option (Flags × Char × List Char)
  | [] => none
  | c :: s =>
    if c = ':' ∨ c = ')' then
      if seen.head? = some '-' then none else some (f, c, s)
    else if seen.contains c then none
    else if c = '-' then settings? false ('-' :: seen) f s
    else (setFlag? on f c).bind fun f => settings? on (c :: seen) f s

def isNameStart (c : Char) : Bool :=
  c == '_' || CharSet.letters.contains c || (CharSet.categories ["nl"]).contains c

def isNameChar (c : Char) : Bool :=
  isNameStart c || c == '.' || c == '[' || c == ']' ||
    (CharSet.categories ["nd", "no"]).contains c

def groupName? (s : List Char) : Option (String × List Char) :=
  let name := s.takeWhile (· ≠ '>')
  match name, s.drop name.length with
  | c :: cs, _ :: rest =>
    if isNameStart c && cs.all isNameChar then some (String.ofList name, rest) else none
  | _, _ => none

def enter (p : Progress) (capture : Option Nat) (f : Flags) : Progress :=
  { p with
    outside := ⟨capture, p.flags, p.branches, p.items⟩ :: p.outside
    flags := f
    branches := []
    items := [] }

def named? (p : Progress) (s : List Char) : Option (Progress × List Char) := do
  let (name, rest) ← groupName? s
  if p.names.any (·.1 == name) then none
  else
    let n := p.groups + 1
    some ({ enter p (some n) p.flags with groups := n, names := (name, n) :: p.names }, rest)

def group? (p : Progress) (s : List Char) : Option (Progress × List Char) :=
  match p.flags.skip s with
  | '?' :: 'P' :: '<' :: r => named? p r
  | '?' :: '<' :: '=' :: _ => none
  | '?' :: '<' :: '!' :: _ => none
  | '?' :: '<' :: r => named? p r
  | '?' :: r => (settings? true [] p.flags r).bind fun (f, last, rest) =>
    if last = ':' then some (enter p none f, rest)
    else if r.head? = some ')' then none
    else some ({ p with flags := f, items := .flags :: p.items }, rest)
  | r =>
    let n := p.groups + 1
    some ({ enter p (some n) p.flags with groups := n }, r)

def leave? (p : Progress) : Option Progress :=
  match p.outside with
  | [] => none
  | o :: os =>
    let (t, depth) := whole p
    let t := match o.capture with
      | some n => .group n t
      | none => t
    some { p with
      outside := os
      flags := o.flags
      branches := o.branches
      items := .part t (depth + 1) :: o.items }

def repeat? (p : Progress) (min : Nat) (more : Option Nat) (lazy : Bool) : Option Progress :=
  match p.items with
  | .part t depth :: items =>
    let t := .repeated min more (lazy == p.flags.swapGreed) t
    some { p with items := .part t (depth + 1) :: items }
  | _ => none

def lazyMark (s : List Char) : Bool × List Char :=
  match s with
  | '?' :: r => (true, r)
  | r => (false, r)

def digits (f : Flags) : Nat → List Char → List Char → List Char × List Char
  | fuel + 1, acc, c :: s =>
    if c.isDigit then digits f fuel (c :: acc) (f.skip s) else (acc.reverse, c :: s)
  | _, acc, s => (acc.reverse, s)

def count? (f : Flags) (s : List Char) : Option Nat × List Char :=
  let s := s.dropWhile Text.isBlank
  let (ds, s) := digits f s.length [] s
  let n := (Number.natural? ds).filter (· < UInt32.size)
  (n, f.skip (s.dropWhile Text.isBlank))

def counts? (f : Flags) (s : List Char) : Option (Nat × Option Nat × List Char) :=
  let (min, s) := count? f (f.skip s)
  match min, s with
  | some min, ',' :: r => match f.skip r with
    | '\x7d' :: r => some (min, none, r)
    | r => match count? f r with
      | (some max, '\x7d' :: r) => if min ≤ max then some (min, some (max - min), r) else none
      | _ => none
  | some min, '\x7d' :: r => some (min, some 0, r)
  | _, _ => none

def step? (p : Progress) : List Char → Option (Progress × List Char)
  | [] => none
  | c :: s =>
    let marked := fun (min : Nat) (more : Option Nat) =>
      let (lazy, r) := lazyMark s
      (repeat? p min more lazy).map fun p => (p, r)
    match c with
    | '(' => group? p s
    | ')' => (leave? p).map fun p => (p, s)
    | '|' => some ({ p with branches := branch p.items :: p.branches, items := [] }, s)
    | '[' => (Class.ofBracket? p.flags s).map fun (set, depth, r) => (add p (.char set) depth, r)
    | '?' => marked 0 (some 1)
    | '*' => marked 0 none
    | '+' => marked 1 none
    | '\x7b' => (counts? p.flags s).bind fun (min, more, r) =>
      let (lazy, r) := lazyMark (p.flags.skip r)
      (repeat? p min more lazy).map fun p => (p, r)
    | '\\' => do
      let (a, r) ← escape? p.flags s
      return (add p (← atomTree? p.flags a) 0, r)
    | '.' => (dot? p.flags).map fun set => (add p (.char set) 0, s)
    | '^' => some (add p (.look (lineStart p.flags)) 0, s)
    | '$' => some (add p (.look (lineEnd p.flags)) 0, s)
    | c => some (add p (.char (literal p.flags c)) 0, s)

def read? : Nat → Progress → List Char → Option Progress
  | 0, _, _ => none
  | fuel + 1, p, s => match p.flags.skip s with
    | [] => if p.outside.isEmpty then some p else none
    | s => match step? p s with
      | some (p, r) => read? fuel p r
      | none => none

end Reader

namespace Regex

def readUnder? (f : Flags) (text : String) : Option Regex := do
  let s := text.toList
  let p ← Reader.read? (s.length + 1) ⟨[], f, [], [], 0, []⟩ s
  let (tree, depth) := Reader.whole p
  if Reader.deepest < depth || Reader.heaviest < tree.weight then none
  else return ⟨tree, p.names⟩

def read? (ignoreCase : Bool) (text : String) : Option Regex := readUnder? (.start ignoreCase) text

end Regex

end CardQuery.Pattern
