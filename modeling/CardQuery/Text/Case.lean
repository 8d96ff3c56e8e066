import CardQuery.Text.CaseTable

namespace CardQuery.Text

def shift (n : Nat) : List CaseRow → Nat
  | [] => n
  | r :: rs =>
    if n < r.first then n
    else if n ≤ r.last && (n - r.first) % r.step == 0 then (n + r.distance).toNat
    else shift n rs

def inRanges (n : Nat) : List (Nat × Nat) → Bool
  | [] => false
  | (lo, hi) :: rs => if n < lo then false else n ≤ hi || inRanges n rs

def isCased (c : Char) : Bool := inRanges c.toNat casedRanges

def isCaseIgnorable (c : Char) : Bool := inRanges c.toNat caseIgnorableRanges

def leadsCased (s : List Char) : Bool :=
  match s.dropWhile isCaseIgnorable with
  | [] => false
  | c :: _ => isCased c

def lowerChar (c : Char) : List Char :=
  if c = 'İ' then ['i', '\u0307'] else [Char.ofNat (shift c.toNat lowerRows)]

/-- A sigma at the end of a word has a lowercase form of its own. `before` holds the characters
already passed, the last one first. -/
def lowerFrom (before : List Char) : List Char → List Char
  | [] => []
  | c :: s =>
    (if c = 'Σ' then [if leadsCased before && !leadsCased s then 'ς' else 'σ'] else lowerChar c) ++
      lowerFrom (c :: before) s

def lower (s : String) : String := String.ofList (lowerFrom [] s.toList)

def foldKey (c : Char) : Char := Char.ofNat (shift c.toNat foldRows)

def sameFolded (a b : Char) : Bool := foldKey a == foldKey b

def CaseRow.preimage? (key : Nat) (r : CaseRow) : Option Nat :=
  let n := ((key : Int) - r.distance).toNat
  if r.first ≤ n && n ≤ r.last && (n - r.first) % r.step == 0 then some n else none

def caseVariants (c : Char) : List Char :=
  foldKey c :: (foldRows.filterMap (CaseRow.preimage? (foldKey c).toNat)).map Char.ofNat

def sameAscii (a b : Char) : Bool := a.toLower == b.toLower

def equalAscii (a b : List Char) : Bool := a.map Char.toLower == b.map Char.toLower

end CardQuery.Text
