import CardQuery.Json.Value
import CardQuery.Markup
import CardQuery.Text.Number

namespace CardQuery.Json

def skipSpace (s : List Char) : List Char :=
  s.dropWhile fun c => c == ' ' || c == '\n' || c == '\t' || c == '\r'

inductive TextUnit where
  | char (c : Char)
  | unit (n : Nat)

def escape? : Char → Option Char
  | '"' => some '"'
  | '\\' => some '\\'
  | '/' => some '/'
  | 'b' => some '\x08'
  | 'f' => some '\x0c'
  | 'n' => some '\n'
  | 'r' => some '\r'
  | 't' => some '\t'
  | _ => none

def textUnits (acc : List TextUnit) : List Char → Option (List TextUnit × List Char)
  | [] => none
  | '"' :: s => some (acc, s)
  | '\\' :: 'u' :: a :: b :: c :: d :: s =>
    match Markup.codePoint? 16 Markup.hexValue? [a, b, c, d] with
    | some n => textUnits (.unit n :: acc) s
    | none => none
  | '\\' :: e :: s => match escape? e with
    | some c => textUnits (.char c :: acc) s
    | none => none
  | c :: s => if c.toNat < 0x20 || c == '\\' then none else textUnits (.char c :: acc) s

def isHigh (n : Nat) : Bool := 0xD800 ≤ n && n < 0xDC00

def isLow (n : Nat) : Bool := 0xDC00 ≤ n && n < 0xE000

/-- Puts surrogate pairs together. Takes the units last one first, and so meets the low half of a
pair before the high half. -/
def characters (acc : List Char) : List TextUnit → Option (List Char)
  | [] => some acc
  | .char c :: us => characters (c :: acc) us
  | [.unit n] => if isHigh n || isLow n then none else some (Char.ofNat n :: acc)
  | .unit n :: .char c :: us =>
    if isHigh n || isLow n then none else characters (c :: Char.ofNat n :: acc) us
  | .unit n :: .unit m :: us =>
    if isLow n then
      if isHigh m then
        characters (Char.ofNat (0x10000 + (m - 0xD800) * 0x400 + (n - 0xDC00)) :: acc) us
      else none
    else if isHigh n then none
    else characters (Char.ofNat n :: acc) (.unit m :: us)

def quoted? (s : List Char) : Option (Option String × List Char) :=
  (textUnits [] s).map fun (us, rest) => ((characters [] us).map String.ofList, rest)

def dropDigits? (s : List Char) : Option (List Char) :=
  match s with
  | c :: _ => if c.isDigit then some (s.dropWhile Char.isDigit) else none
  | [] => none

def dropFraction? : List Char → Option (List Char)
  | '.' :: s => dropDigits? s
  | s => some s

def dropExponent? : List Char → Option (List Char)
  | c :: s =>
    if c == 'e' || c == 'E' then
      match s with
      | '+' :: s => dropDigits? s
      | '-' :: s => dropDigits? s
      | s => dropDigits? s
    else some (c :: s)
  | [] => some []

def number? (negative : Bool) (s : List Char) : Option (Json × List Char) := do
  let whole := s.takeWhile Char.isDigit
  if whole.isEmpty || (1 < whole.length && whole.head? == some '0') then none else
  let rest := s.dropWhile Char.isDigit
  let tail ← (dropFraction? rest).bind dropExponent?
  let n := Number.ofDigits whole
  if tail.length < rest.length || (negative && n == 0) then some (.real, tail)
  else some (.int (if negative then -(n : Int) else n), tail)

mutual

def value? : Nat → List Char → Option (Json × List Char)
  | 0, _ => none
  | fuel + 1, s => match skipSpace s with
    | 'n' :: 'u' :: 'l' :: 'l' :: s => some (.null, s)
    | 't' :: 'r' :: 'u' :: 'e' :: s => some (.bool true, s)
    | 'f' :: 'a' :: 'l' :: 's' :: 'e' :: s => some (.bool false, s)
    | '"' :: s => (quoted? s).map fun (t, s) => (.string t, s)
    | '[' :: s => match skipSpace s with
      | ']' :: s => some (.array [], s)
      | s => (items? fuel [] s).map fun (xs, s) => (.array xs, s)
    | '\x7b' :: s => match skipSpace s with
      | '\x7d' :: s => some (.object [], s)
      | s => (members? fuel [] s).map fun (ms, s) => (.object ms, s)
    | '-' :: s => number? true s
    | s => number? false s

def items? : Nat → List Json → List Char → Option (List Json × List Char)
  | 0, _, _ => none
  | fuel + 1, acc, s => match value? fuel s with
    | none => none
    | some (v, s) => match skipSpace s with
      | ',' :: s => items? fuel (v :: acc) s
      | ']' :: s => some ((v :: acc).reverse, s)
      | _ => none

def members? : Nat → List (Option String × Json) → List Char →
    Option (List (Option String × Json) × List Char)
  | 0, _, _ => none
  | fuel + 1, acc, s => match skipSpace s with
    | '"' :: s => match quoted? s with
      | none => none
      | some (key, s) => match skipSpace s with
        | ':' :: s => match value? fuel s with
          | none => none
          | some (v, s) => match skipSpace s with
            | ',' :: s => members? fuel ((key, v) :: acc) s
            | '\x7d' :: s => some (((key, v) :: acc).reverse, s)
            | _ => none
        | _ => none
    | _ => none

end

def read? (text : String) : Option Json :=
  let s := text.toList
  match value? (2 * s.length + 2) s with
  | some (v, rest) => if (skipSpace rest).isEmpty then some v else none
  | none => none

end CardQuery.Json
