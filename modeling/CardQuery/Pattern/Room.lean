import CardQuery.Text.Compare

/-!
How much room the states take that go through the texts of a few characters byte by byte, from the first
byte on or from the last.
-/

namespace CardQuery.Pattern

inductive Direction where
  | forwards
  | backwards

namespace Room

def bytes (c : Char) : List Nat := (String.utf8EncodeChar c).map UInt8.toNat

def firsts (texts : List (List Nat)) : List Nat := (texts.filterMap List.head?).eraseDups

def behind (texts : List (List Nat)) (b : Nat) : List (List Nat) :=
  texts.filterMap fun
    | [] => none
    | c :: rest => if c = b then some rest else none

/-- The last bytes that follow one another are one transition. -/
def transitions (texts : List (List Nat)) : Nat :=
  (firsts texts).countP fun b =>
    !(0 < b && behind texts b == [[]] && behind texts (b - 1) == [[]])

def ofState (texts : List (List Nat)) : Nat := 32 + 8 * transitions texts

def states : Nat → List (List (List Nat)) → List (List (List Nat))
  | 0, _ => []
  | n + 1, level => level ++ states n (level.flatMap fun texts => (firsts texts).map (behind texts))

def longest : Nat := 4

def readForwards (texts : List (List Nat)) : Nat :=
  (states (longest + 1) [texts]).eraseDups.foldl (fun room state => room + ofState state) 0

def starts (text : List Nat) : List (List Nat) :=
  (List.range (text.length - 1)).map fun n => text.take (n + 1)

def follows (texts : List (List Nat)) (text : List Nat) : Bool :=
  texts.any fun t => t.dropLast == text.dropLast && t.getLastD 0 + 1 == text.getLastD 0

/-- Read backwards, the texts share no more than the states of the bytes that they start with. -/
def readBackwards (texts : List (List Nat)) : Nat :=
  let shared := (texts.flatMap starts).eraseDups.length
  let ends := texts.countP (!follows texts ·)
  32 * (2 + shared + ends) + 4 * ends

def ofChars (d : Direction) (cs : List Char) : Nat :=
  let texts := (Sorting.sort (fun c d => c.toNat ≤ d.toNat) cs.eraseDups).map bytes
  match d with
  | .forwards => readForwards texts
  | .backwards => if texts.all (·.length == 1) then readForwards texts else readBackwards texts

end Room

end CardQuery.Pattern
