import CardQuery.Text.Case
import CardQuery.Text.Edit
import CardQuery.Text.Split

/-!
Field values without their HTML markup. Comments, style and script elements vanish with their
content, other tags vanish alone, and entities are decoded last; an image may leave its file name.
-/

namespace CardQuery.Markup

open CardQuery.Text

def startsFolded : List Char → List Char → Bool
  | [], _ => true
  | _ :: _, [] => false
  | w :: ws, c :: s => sameFolded w c && startsFolded ws s

def foldedLength? (word s : List Char) : Option Nat :=
  if startsFolded word s then some word.length else none

def comment : List Char → Option Nat :=
  andThen (partLength? ['<', '!', '-', '-']) (upTo? (partLength? ['-', '-', '>']))

def element (name : List Char) : List Char → Option Nat :=
  andThen (foldedLength? ('<' :: name)) <|
    andThen (upTo? (partLength? ['>'])) (upTo? (foldedLength? (['<', '/'] ++ name ++ ['>'])))

def tag : List Char → Option Nat := andThen (partLength? ['<']) (upTo? (partLength? ['>']))

def isQuote (c : Char) : Bool := c == '"' || c == '\''

def fileName (s : List Char) : Option (List Char) :=
  let s := match s with
    | [] => []
    | c :: r => if isQuote c then r else c :: r
  let name := s.takeWhile fun c => !isQuote c
  if name.isEmpty then none else some name

def lastSource : List Char → Option (List Char)
  | [] => none
  | c :: s => match lastSource s with
    | some name => some name
    | none => if startsFolded ['s', 'r', 'c', '='] (c :: s) then fileName (s.drop 3) else none

def image (s : List Char) : Option (List Char × Nat) :=
  if startsFolded ['<', 'i', 'm', 'g'] s then
    let body := (s.drop 4).takeWhile (· ≠ '>')
    if (s.drop 4).length = body.length then none
    else (lastSource body.tail).map fun name => (' ' :: name ++ [' '], body.length + 4)
  else none

def hexValue? (c : Char) : Option Nat :=
  if c.isDigit then some (c.toNat - '0'.toNat)
  else if 'a' ≤ c ∧ c ≤ 'f' then some (c.toNat - 'a'.toNat + 10)
  else if 'A' ≤ c ∧ c ≤ 'F' then some (c.toNat - 'A'.toNat + 10)
  else none

def codePoint? (base : Nat) (value? : Char → Option Nat) (s : List Char) : Option Nat :=
  if s.isEmpty then none
  else s.foldl (fun n c => n.bind fun n => (value? c).map (base * n + ·)) (some 0)

def character? (n : Nat) : Option Char := if n.isValidChar then some (Char.ofNat n) else none

def namedCharacter? : List Char → Option Char
  | ['n', 'b', 's', 'p'] => some ' '
  | ['a', 'm', 'p'] => some '&'
  | ['l', 't'] => some '<'
  | ['g', 't'] => some '>'
  | ['q', 'u', 'o', 't'] => some '"'
  | ['a', 'p', 'o', 's'] => some '\''
  | _ => none

def entityCharacter? : List Char → Option Char
  | '#' :: 'x' :: s => (codePoint? 16 hexValue? s).bind character?
  | '#' :: s => (codePoint? 10 (fun c => if c.isDigit then hexValue? c else none) s).bind character?
  | s => namedCharacter? s

def entity : List Char → Option (List Char × Nat)
  | '&' :: s =>
    let name := s.takeWhile fun c => c.isAlphanum || c == '#'
    match s.drop name.length with
    | ';' :: _ => (entityCharacter? name).map fun c => ([c], name.length + 1)
    | _ => none
  | _ => none

def stripChars (s : List Char) : List Char :=
  let s := edit (erasing comment) s
  let s := edit (erasing (element ['s', 't', 'y', 'l', 'e'])) s
  let s := edit (erasing (element ['s', 'c', 'r', 'i', 'p', 't'])) s
  let s := edit (erasing tag) s
  edit entity s

def strip (value : String) : String := String.ofList (stripChars value.toList)

def stripKeepingImages (value : String) : String :=
  String.ofList (stripChars (edit image value.toList))

end CardQuery.Markup
