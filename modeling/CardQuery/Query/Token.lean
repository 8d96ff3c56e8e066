import CardQuery.Text.Blank
import CardQuery.Text.Case
import CardQuery.Text.Split

/-!
The tokens of a query. Words are separated by blanks and parentheses; quotes open only at the start
of a word or after a colon, and what they hold is taken as it stands.
-/

namespace CardQuery

inductive Token where
  | opening
  | closing
  | minus
  | or
  | command (key value : String)
  | text (words : String)
  deriving DecidableEq, Repr

namespace Token

def ofWord (word : List Char) : Token :=
  if Text.equalAscii word ['o', 'r'] then .or
  else match Text.splitOnce ':' word with
    | some (key, value) => .command (Text.lower (String.ofList key)) (String.ofList value)
    | none => .text (String.ofList word)

def flush (word : List Char) : List Token :=
  if word.isEmpty then [] else [ofWord word.reverse]

/-- Scans on from a place where `quote` is the open quote, `word` the unfinished word, last character
first, and `afterMinus` says whether the latest token is a minus. An opening parenthesis does not end
the unfinished word. -/
def scan (quote : Option Char) (word : List Char) (afterMinus : Bool) : List Char → List Token
  | [] => flush word
  | c :: s =>
    match quote with
    | some q =>
      if c = q then scan none word afterMinus s else scan quote (c :: word) afterMinus s
    | none =>
      if c = '\'' ∨ c = '"' then
        if word.head?.all (· == ':') then scan (some c) word afterMinus s
        else scan none (c :: word) afterMinus s
      else if Text.isBlank c then flush word ++ scan none [] (afterMinus && word.isEmpty) s
      else if c = '(' then .opening :: scan none word false s
      else if c = ')' then flush word ++ .closing :: scan none [] false s
      else if c = '-' ∧ word.isEmpty then
        if afterMinus then scan none [] true s else .minus :: scan none [] true s
      else scan none (c :: word) afterMinus s

def ofQuery (query : String) : List Token := scan none [] false query.toList

end Token

end CardQuery
