/-!
One pass over a text that replaces the pieces a finder recognises, leftmost first.
-/

namespace CardQuery.Text

def editFrom (find : List Char → Option (List Char × Nat)) : Nat → List Char → List Char
  | _, [] => []
  | skip + 1, _ :: s => editFrom find skip s
  | 0, c :: s =>
    match find (c :: s) with
    | some (out, more) => out ++ editFrom find more s
    | none => c :: editFrom find 0 s

def edit (find : List Char → Option (List Char × Nat)) (s : List Char) : List Char :=
  editFrom find 0 s

def erasing (length? : List Char → Option Nat) (s : List Char) : Option (List Char × Nat) :=
  (length? s).map fun n => ([], n - 1)

def upTo? (length? : List Char → Option Nat) : List Char → Option Nat
  | [] => length? []
  | c :: s => match length? (c :: s) with
    | some n => some n
    | none => (upTo? length? s).map (· + 1)

def andThen (first second : List Char → Option Nat) (s : List Char) : Option Nat :=
  (first s).bind fun n => (second (s.drop n)).map (n + ·)

end CardQuery.Text
