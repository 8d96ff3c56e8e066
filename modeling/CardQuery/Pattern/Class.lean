import CardQuery.Markup
import CardQuery.Pattern.Tree
import CardQuery.Text.Number

namespace CardQuery.Pattern

structure Flags where
  ignoreCase : Bool
  multiLine : Bool
  dotAll : Bool
  swapGreed : Bool
  unicode : Bool
  ignoreSpace : Bool
  crlf : Bool
  deriving DecidableEq, Repr

def Flags.start (ignoreCase : Bool) : Flags :=
  ⟨ignoreCase, false, false, false, true, false, false⟩

def dropSpace (comment : Bool) : List Char → List Char
  | [] => []
  | c :: s =>
    if comment then dropSpace (c ≠ '\n') s
    else if Text.isBlank c then dropSpace false s
    else if c = '#' then dropSpace true s
    else c :: s

def Flags.skip (f : Flags) (s : List Char) : List Char :=
  if f.ignoreSpace then dropSpace false s else s

inductive Atom where
  | char (c : Char) (byte : Bool)
  | set (s : CharSet)
  | look (l : Look)

def Flags.word (f : Flags) : CharSet := if f.unicode then .word else .asciiWord

def Flags.classOf (f : Flags) (negated : Bool) (wide narrow : CharSet) : Option CharSet :=
  if f.unicode then some (.negatedIf negated wide)
  else if negated then none else some narrow

def isMeta (c : Char) : Bool :=
  ['\\', '.', '+', '*', '?', '(', ')', '|', '[', ']', '\x7b', '\x7d', '^', '$', '#', '&', '-',
    '~'].contains c

def escaped (c : Char) : List Char := if isMeta c then ['\\', c] else [c]

def escape (text : String) : String := String.ofList (text.toList.flatMap escaped)

def isEscapable (c : Char) : Bool :=
  isMeta c || c.toNat < 128 && !c.isAlphanum && c != '<' && c != '>'

def hexDigits? (f : Flags) : Nat → List Char → List Char → Option (List Char × List Char)
  | 0, acc, s => some (acc.reverse, s)
  | n + 1, acc, c :: s =>
    if (Markup.hexValue? c).isSome then hexDigits? f n (c :: acc) (f.skip s) else none
  | _ + 1, _, [] => none

def braced? (f : Flags) : Nat → List Char → List Char → Option (List Char × List Char)
  | fuel + 1, acc, c :: s =>
    if c = '\x7d' then some (acc.reverse, s) else braced? f fuel (c :: acc) (f.skip s)
  | _, _, _ => none

def hexAtom? (f : Flags) (width : Nat) (s : List Char) : Option (Atom × List Char) := do
  let s := f.skip s
  let (digits, rest, byte) ← match s with
    | '\x7b' :: r => (braced? f (r.length + 1) [] (f.skip r)).map fun (d, r) => (d, r, false)
    | _ => (hexDigits? f width [] s).map fun (d, r) => (d, r, width == 2)
  let c ← (Markup.codePoint? 16 Markup.hexValue? digits).bind Markup.character?
  return (.char c byte, rest)

def property? (name : List Char) : Option (Bool × CharSet) :=
  match Text.splitOnce '=' name with
  | some (p, v) =>
    if p.getLast? = some '!' then (CharSet.propertyValue? p.dropLast v).map (true, ·)
    else match Text.splitOnce ':' name with
      | some (p, v) => (CharSet.propertyValue? p v).map (false, ·)
      | none => (CharSet.propertyValue? p v).map (false, ·)
  | none => match Text.splitOnce ':' name with
    | some (p, v) => (CharSet.propertyValue? p v).map (false, ·)
    | none => (CharSet.property? name).map (false, ·)

def Flags.fold (f : Flags) (s : CharSet) : CharSet :=
  if !f.ignoreCase then s
  else if f.unicode then .folded s
  else .inter .ascii (.folded s)

def propertyAtom? (f : Flags) (negated : Bool) (s : List Char) : Option (Atom × List Char) := do
  let (name, rest) ← match f.skip s with
    | '\x7b' :: r => braced? f (r.length + 1) [] (f.skip r)
    | '\\' :: _ => none
    | c :: r => some ([c], r)
    | [] => none
  let (ruledOut, set) ← property? name
  if f.unicode then return (.set (.negatedIf (negated != ruledOut) (f.fold set)), rest)
  else none

def boundaryAtom? (f : Flags) (s : List Char) : Option (Atom × List Char) :=
  let plain := some (Atom.look (.boundary f.word), s)
  match s with
  | '\x7b' :: r =>
    let isNameChar := fun (c : Char) => c.isAlpha || c == '-'
    match f.skip r with
    | [] => none
    | c :: r =>
      if isNameChar c then match braced? f (r.length + 2) [] (c :: r) with
        | some (name, rest) =>
          if !name.all isNameChar then none
          else match String.ofList name with
            | "start" => some (.look (.wordStart f.word), rest)
            | "end" => some (.look (.wordEnd f.word), rest)
            | "start-half" => some (.look (.noWordBefore f.word), rest)
            | "end-half" => some (.look (.noWordAfter f.word), rest)
            | _ => none
        | none => none
      else plain
  | _ => plain

def escape? (f : Flags) : List Char → Option (Atom × List Char)
  | [] => none
  | c :: s =>
    let set := fun (negated : Bool) (wide narrow : CharSet) =>
      (f.classOf negated wide narrow).map fun t => (Atom.set t, s)
    let char := fun (c : Char) => some (Atom.char c false, s)
    match c with
    | 'x' => hexAtom? f 2 s
    | 'u' => hexAtom? f 4 s
    | 'U' => hexAtom? f 8 s
    | 'p' => propertyAtom? f false s
    | 'P' => propertyAtom? f true s
    | 'd' => set false .digit .asciiDigit
    | 'D' => set true .digit .asciiDigit
    | 's' => set false .blank .asciiBlank
    | 'S' => set true .blank .asciiBlank
    | 'w' => set false .word .asciiWord
    | 'W' => set true .word .asciiWord
    | 'a' => char '\x07'
    | 'f' => char '\x0c'
    | 't' => char '\t'
    | 'n' => char '\n'
    | 'r' => char '\r'
    | 'v' => char '\x0b'
    | 'A' => some (.look .textStart, s)
    | 'z' => some (.look .textEnd, s)
    | 'b' => boundaryAtom? f s
    | 'B' => some (.look (.noBoundary f.word), s)
    | '<' => some (.look (.wordStart f.word), s)
    | '>' => some (.look (.wordEnd f.word), s)
    | c => if isEscapable c then char c else none

namespace Class

inductive Operator where
  | intersection
  | difference
  | symmetricDifference

def Operator.apply : Operator → CharSet → CharSet → CharSet
  | intersection => .inter
  | difference => .diff
  | symmetricDifference => .symmDiff

structure Open where
  outside : List CharSet
  negated : Bool
  left : Option (CharSet × Operator)

structure Progress where
  opened : List Open
  parts : List CharSet
  depth : Nat

def element? (f : Flags) : List Char → Option (Atom × List Char)
  | '\\' :: s => escape? f s
  | c :: s => some (.char c false, s)
  | [] => none

def charOf? (f : Flags) : Atom → Option Char
  | .char c _ => if f.unicode || c.toNat < 128 then some c else none
  | _ => none

def setOf? (f : Flags) : Atom → Option CharSet
  | .set s => some s
  | .look _ => none
  | a => (charOf? f a).map CharSet.char

def part? (f : Flags) (s : List Char) : Option (CharSet × List Char) := do
  let (first, s) ← element? f s
  match f.skip s with
  | '-' :: r => match f.skip r with
    | ']' :: _ => return (← setOf? f first, '-' :: r)
    | '-' :: _ => return (← setOf? f first, '-' :: r)
    | r =>
      let (last, rest) ← element? f r
      let lo ← charOf? f first
      let hi ← charOf? f last
      if lo ≤ hi then return (.range lo.toNat hi.toNat, rest) else none
  | r => return (← setOf? f first, r)

def leadingHyphens (f : Flags) : Nat → List Char → List Char → List Char × List Char
  | fuel + 1, acc, '-' :: s => leadingHyphens f fuel ('-' :: acc) (f.skip s)
  | _, acc, s => (acc, s)

def front (f : Flags) (s : List Char) : Bool × List CharSet × List Char :=
  let s := f.skip s
  let (negated, s) := match s with
    | '^' :: r => (true, f.skip r)
    | _ => (false, s)
  let (hyphens, s) := leadingHyphens f s.length [] s
  let (literals, s) := match hyphens, s with
    | [], ']' :: r => ([']'], f.skip r)
    | _, _ => (hyphens, s)
  (negated, literals.map CharSet.char, s)

def named? (f : Flags) : List Char → Option (Option CharSet × List Char)
  | ':' :: s =>
    let (negated, s) := match s with
      | '^' :: r => (true, r)
      | _ => (false, s)
    let name := s.takeWhile (· ≠ ':')
    match s.drop name.length with
    | ':' :: ']' :: rest => (CharSet.asciiClass? (String.ofList name)).map fun set =>
        (if negated && !f.unicode then none else some (.negatedIf negated (f.fold set)), rest)
    | _ => none
  | _ => none

def Progress.operand (f : Flags) (left : Option (CharSet × Operator)) (parts : List CharSet) : CharSet :=
  let right := CharSet.unions parts.reverse
  match left with
  | none => right
  | some (l, op) => op.apply (f.fold l) (f.fold right)

def operator? : List Char → Option (Operator × List Char)
  | '&' :: '&' :: s => some (.intersection, s)
  | '-' :: '-' :: s => some (.difference, s)
  | '~' :: '~' :: s => some (.symmetricDifference, s)
  | _ => none

def read? (f : Flags) : Nat → Progress → List Char → Option (CharSet × Nat × List Char)
  | 0, _, _ => none
  | fuel + 1, p, s =>
    let s := f.skip s
    match p.opened with
    | [] => none
    | o :: os =>
      let deeper := max p.depth (p.opened.length + 1)
      match s with
      | [] => none
      | '[' :: r =>
        match named? f r with
        | some (some set, rest) => read? f fuel { p with parts := set :: p.parts } rest
        | some (none, _) => none
        | none =>
          let (negated, literals, r) := front f r
          read? f fuel ⟨⟨p.parts, negated, none⟩ :: p.opened, literals, deeper⟩ r
      | ']' :: r =>
        let set := f.fold (Progress.operand f o.left p.parts)
        if o.negated && !f.unicode then none
        else
          let set := CharSet.negatedIf o.negated set
          if os.isEmpty then some (set, deeper, r)
          else read? f fuel ⟨os, set :: o.outside, p.depth⟩ r
      | s =>
        match operator? s with
        | some (op, r) =>
          let left := Progress.operand f o.left p.parts
          read? f fuel ⟨{ o with left := some (left, op) } :: os, [], p.depth⟩ r
        | none => match part? f s with
          | none => none
          | some (set, r) => read? f fuel { p with parts := set :: p.parts } r

def ofBracket? (f : Flags) (s : List Char) : Option (CharSet × Nat × List Char) :=
  let (negated, literals, r) := front f s
  read? f (s.length + 1) ⟨[⟨[], negated, none⟩], literals, 0⟩ r

end Class

end CardQuery.Pattern
