import CardQuery.Text.Case
import CardQuery.Text.Wildcard

/-!
LIKE patterns: `%` stands for any run, `_` for one character, ASCII letters match in either case.
Pattern and text end at their first NUL, and the two noncharacters U+FFFE and U+FFFF are read as the
replacement character.
-/

namespace CardQuery.Like

def places (escape : Option Char) : List Char → Option (List Wild)
  | [] => some []
  | [c] =>
    if some c = escape then none
    else some [if c = '%' then .run else if c = '_' then .one else .lit c]
  | c :: d :: s =>
    if some c = escape then (places escape s).map (.lit d :: ·)
    else if c = '%' then (places escape (d :: s)).map (.run :: ·)
    else if c = '_' then (places escape (d :: s)).map (.one :: ·)
    else (places escape (d :: s)).map (.lit c :: ·)

def untilNul (s : List Char) : List Char := s.takeWhile (· ≠ '\x00')

def read (c : Char) : Char := if c = '\uFFFE' ∨ c = '\uFFFF' then '\uFFFD' else c

def alphabet : Wild.Alphabet := ⟨fun _ => true, fun c d => Text.sameAscii (read c) (read d)⟩

def accepts (escape : Option Char) (pattern text : List Char) : Bool :=
  match places escape (untilNul pattern) with
  | none => false
  | some p => Wild.accepts alphabet p (untilNul text)

def longest : Nat := 50000

def holds? (escape : Option Char) (pattern text : String) : Option Bool :=
  if longest < pattern.utf8ByteSize then none
  else some (accepts escape pattern.toList text.toList)

end CardQuery.Like
