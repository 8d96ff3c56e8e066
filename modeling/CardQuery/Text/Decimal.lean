import CardQuery.Text.Number

namespace CardQuery.Decimal

structure Numeral where
  digits : List Char
  places : Nat
  exponent : Int

def exponent? : List Char → Option Int
  | [] => some 0
  | c :: s => if c = 'e' || c = 'E' then Number.signed? s else none

def unsigned? (s : List Char) : Option Numeral :=
  let whole := s.takeWhile Char.isDigit
  let rest := s.dropWhile Char.isDigit
  let (fraction, tail) := match rest with
    | '.' :: r => (r.takeWhile Char.isDigit, r.dropWhile Char.isDigit)
    | r => ([], r)
  if whole.isEmpty && fraction.isEmpty then none
  else (exponent? tail).map fun e => ⟨whole ++ fraction, fraction.length, e⟩

def Numeral.toFloat (n : Numeral) : Float :=
  let m := Number.ofDigits n.digits
  let e := n.exponent - n.places
  if m = 0 then 0
  else if e + n.digits.length < -400 then 0
  else if 400 < e then 1.0 / 0.0
  else if e < 0 then Float.ofScientific m true e.natAbs
  else Float.ofScientific m false e.natAbs

def read? : List Char → Option Float
  | '-' :: s => (unsigned? s).map fun n => -n.toFloat
  | '+' :: s => (unsigned? s).map Numeral.toFloat
  | s => (unsigned? s).map Numeral.toFloat

/-- The number in thousandths, a half going away from zero, clamped to 64 bits; a number too large
for a double is refused. -/
def thousandths? (s : List Char) : Option Int :=
  (read? s).bind fun x => if x.isFinite then some (x * 1000.0).round.toInt64.toInt else none

end CardQuery.Decimal
