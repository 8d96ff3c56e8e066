namespace CardQuery.Number

def inRange (n : Int) : Bool := -0x8000000000000000 ≤ n && n < 0x8000000000000000

def checked (n : Int) : Option Int := if inRange n then some n else none

def add? (a b : Int) : Option Int := checked (a + b)

def sub? (a b : Int) : Option Int := checked (a - b)

def mul? (a b : Int) : Option Int := checked (a * b)

def digitValue (c : Char) : Nat := c.toNat - '0'.toNat

def ofDigits (s : List Char) : Nat := s.foldl (fun n c => 10 * n + digitValue c) 0

def natural? (s : List Char) : Option Nat :=
  if !s.isEmpty && s.all Char.isDigit then some (ofDigits s) else none

def signed? : List Char → Option Int
  | '-' :: s => (natural? s).map fun n => -(n : Int)
  | '+' :: s => (natural? s).map fun n => (n : Int)
  | s => (natural? s).map fun n => (n : Int)

def read? (s : List Char) : Option Int := (signed? s).bind checked

def readText? (s : String) : Option Int := read? s.toList

end CardQuery.Number
