import CardQuery.Pattern.PropertyTable
import CardQuery.Pattern.Room
import CardQuery.Text.Blank
import CardQuery.Text.Case
import CardQuery.Text.Split

namespace CardQuery.Pattern

inductive CharSet where
  | all
  | variants (c : Char)
  | range (lo hi : Nat)
  | table (ranges : List (Nat × Nat))
  | blank
  | folded (s : CharSet)
  | compl (s : CharSet)
  | union (a b : CharSet)
  | inter (a b : CharSet)

namespace CharSet

def contains : CharSet → Char → Bool
  | all, _ => true
  | variants c, x => Text.sameFolded c x
  | range lo hi, x => lo ≤ x.toNat && x.toNat ≤ hi
  | table ranges, x => Text.inRanges x.toNat ranges
  | blank, x => Text.isBlank x
  | folded s, x => s.contains x || (Text.caseVariants x).any s.contains
  | compl s, x => !s.contains x
  | union a b, x => a.contains x || b.contains x
  | inter a b, x => a.contains x && b.contains x

def char (c : Char) : CharSet := range c.toNat c.toNat

def none : CharSet := compl all

def unions (sets : List CharSet) : CharSet := sets.foldr union none

def diff (a b : CharSet) : CharSet := inter a (compl b)

def symmDiff (a b : CharSet) : CharSet := union (diff a b) (diff b a)

def ascii : CharSet := range 0 0x7F

def negatedIf (negated : Bool) (s : CharSet) : CharSet := if negated then compl s else s

/-- How much room a set takes in an unfolded pattern, at the least. A character that has no variants is
a text of its own, every byte of it a state. -/
def weight (d : Direction) : CharSet → Nat
  | all => match d with
    | .forwards => 416
    | .backwards => 964
  | variants c =>
    let cs := (Text.caseVariants c).eraseDups
    if cs.length ≤ 1 then 32 * c.utf8Size else Room.ofChars d cs
  | range lo hi => if lo = hi then 32 * (Char.ofNat lo).utf8Size else 32
  | table ranges => 64 * ranges.length + 32
  | blank => 32
  | folded s => s.weight d
  | compl (range 10 10) => match d with
    | .forwards => 424
    | .backwards => 1000
  | compl s => s.weight d + 32
  | union a b => a.weight d + b.weight d
  | inter a b => a.weight d + b.weight d

def hexNumber (s : List Char) : Nat :=
  s.foldl (fun n c => 16 * n + (if c.isDigit then c.toNat - 48 else c.toNat - 55)) 0

def decodeRange (s : List Char) : Nat × Nat :=
  match Text.splitOnce '-' s with
  | some (lo, hi) => (hexNumber lo, hexNumber hi)
  | Option.none => (hexNumber s, hexNumber s)

def decodeRanges (lines : List String) : CharSet :=
  table ((lines.flatMap fun line => Text.splitOn ' ' line.toList).map decodeRange)

def row? (rows : List PropertyRow) (name : String) : Option CharSet :=
  (rows.find? (·.names.contains name)).map fun r => decodeRanges r.ranges

def categories (names : List String) : CharSet :=
  unions (names.filterMap (row? generalCategoryRows))

def letters : CharSet := categories ["lu", "ll", "lt", "lm", "lo"]

def marks : CharSet := categories ["mn", "mc", "me"]

def assigned : CharSet :=
  categories (generalCategoryRows.filterMap (·.names.head?))

def word : CharSet :=
  union (union letters marks) <| union (categories ["nl", "nd", "pc"]) <|
    table [(0x200C, 0x200D), (0x24B6, 0x24E9), (0x1F130, 0x1F149), (0x1F150, 0x1F169),
      (0x1F170, 0x1F189)]

def digit : CharSet := categories ["nd"]

def asciiWord : CharSet := table [(48, 57), (65, 90), (95, 95), (97, 122)]

def asciiDigit : CharSet := range 48 57

def asciiBlank : CharSet := table [(9, 13), (32, 32)]

def asciiClass? : String → Option CharSet
  | "alnum" => some (table [(48, 57), (65, 90), (97, 122)])
  | "alpha" => some (table [(65, 90), (97, 122)])
  | "ascii" => some ascii
  | "blank" => some (table [(9, 9), (32, 32)])
  | "cntrl" => some (table [(0, 31), (127, 127)])
  | "digit" => some asciiDigit
  | "graph" => some (range 33 126)
  | "lower" => some (range 97 122)
  | "print" => some (range 32 126)
  | "punct" => some (table [(33, 47), (58, 64), (91, 96), (123, 126)])
  | "space" => some asciiBlank
  | "upper" => some (range 65 90)
  | "word" => some asciiWord
  | "xdigit" => some (table [(48, 57), (65, 70), (97, 102)])
  | _ => Option.none

def plainName (s : List Char) : String :=
  let s := (s.filter fun c => c != ' ' && c != '_' && c != '-').map Char.toLower
  match s with
  | 'i' :: 's' :: c :: r => String.ofList (if c = 'c' ∧ r.isEmpty then s else c :: r)
  | _ => String.ofList s

def categoryGroup? : String → Option CharSet
  | "l" | "letter" => some letters
  | "lc" | "casedletter" => some (categories ["lu", "ll", "lt"])
  | "m" | "mark" | "combiningmark" => some marks
  | "n" | "number" => some (categories ["nd", "nl", "no"])
  | "p" | "punctuation" | "punct" => some (categories ["pc", "pd", "ps", "pe", "pi", "pf", "po"])
  | "s" | "symbol" => some (categories ["sm", "sc", "sk", "so"])
  | "z" | "separator" => some (categories ["zs", "zl", "zp"])
  | "c" | "other" => some (union (categories ["cc", "cf", "co"]) (compl assigned))
  | "cn" | "unassigned" => some (compl assigned)
  | "any" => some all
  | "assigned" => some assigned
  | "ascii" => some ascii
  | _ => Option.none

def category? (name : String) : Option CharSet :=
  (categoryGroup? name).or (row? generalCategoryRows name)

def yesNo? (name : String) : Option CharSet :=
  if name = "cf" ∨ name = "sc" ∨ name = "lc" then Option.none
  else if name = "whitespace" ∨ name = "wspace" ∨ name = "space" then some blank
  else row? yesNoRows name

def script? (name : String) : Option CharSet := row? scriptRows name

def property? (name : List Char) : Option CharSet :=
  let name := plainName name
  (yesNo? name).or ((category? name).or (script? name))

def propertyValue? (property value : List Char) : Option CharSet :=
  match plainName property with
  | "gc" | "generalcategory" => category? (plainName value)
  | "sc" | "script" | "scx" | "scriptextensions" => script? (plainName value)
  | _ => Option.none

end CharSet

end CardQuery.Pattern
