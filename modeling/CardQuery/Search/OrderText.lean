import CardQuery.Search.SortKey
import CardQuery.Text.Split

/-!
Reading an order that a caller wrote out: columns separated by commas, each with a minus in front, a
collation or a direction if wanted. Keywords and names may be in either case.
-/

namespace CardQuery

inductive Scope where
  | cards
  | cardsWithNotes
  deriving DecidableEq, Repr

namespace OrderText

inductive Lexeme where
  | word (s : String)
  | dot
  | comma
  | minus
  deriving DecidableEq, Repr

def isSpace (c : Char) : Bool :=
  c == ' ' || c == '\t' || c == '\n' || c == '\r' || c == '\x0c'

def isWordChar (c : Char) : Bool := c.isAlphanum || c == '_'

def flush (word : List Char) : List Lexeme :=
  if word.isEmpty then [] else [.word (String.ofList (word.reverse.map Char.toLower))]

def lexemes? (word : List Char) (remark : Bool) : List Char → Option (List Lexeme)
  | [] => some (flush word)
  | '-' :: '-' :: s => (lexemes? [] true s).map (flush word ++ ·)
  | c :: s =>
    if remark then lexemes? [] (c ≠ '\n') s
    else if isWordChar c then lexemes? (c :: word) false s
    else (if isSpace c then some [] else if c = '.' then some [.dot]
      else if c = ',' then some [.comma] else if c = '-' then some [.minus]
      else none).bind fun l => (lexemes? [] false s).map (flush word ++ l ++ ·)

/-- An unqualified name must belong to one of the tables in reach, and to one only. -/
def unqualified? (scope : Scope) (name : String) : Option Column :=
  match scope, CardColumn.ofName? name, NoteColumn.ofName? name with
  | .cards, some c, _ => some (.card c)
  | .cardsWithNotes, some c, none => some (.card c)
  | .cardsWithNotes, none, some n => some (.note n)
  | _, _, _ => none

def qualified? (scope : Scope) (table name : String) : Option Column :=
  match scope, table with
  | _, "c" => (CardColumn.ofName? name).map .card
  | .cardsWithNotes, "n" => (NoteColumn.ofName? name).map .note
  | _, _ => none

def ends : List Lexeme → Bool
  | [] => true
  | [.word "nulls", .word "first"] => true
  | [.word "nulls", .word "last"] => true
  | _ => false

def direction? : List Lexeme → Option Bool
  | .word "asc" :: ls => if ends ls then some false else none
  | .word "desc" :: ls => if ends ls then some true else none
  | ls => if ends ls then some false else none

def suffix? : List Lexeme → Option (Collation × Bool)
  | .word "collate" :: .word "nocase" :: ls => (direction? ls).map (.nocase, ·)
  | .word "collate" :: .word "binary" :: ls => (direction? ls).map (.binary, ·)
  | ls => (direction? ls).map (.binary, ·)

def keyOf? (negated : Bool) (column : Option Column) (rest : List Lexeme) : Option SortKey := do
  let (collation, descending) ← suffix? rest
  return ⟨← column, negated, collation, descending⟩

def key? (scope : Scope) (negated : Bool) : List Lexeme → Option SortKey
  | .minus :: ls => key? scope (!negated) ls
  | .word table :: .dot :: .word name :: ls => keyOf? negated (qualified? scope table name) ls
  | .word name :: ls => keyOf? negated (unqualified? scope name) ls
  | _ => none

def terms : List Lexeme → List (List Lexeme)
  | [] => [[]]
  | l :: ls =>
    if l = .comma then [] :: terms ls
    else match terms ls with
      | [] => [[l]]
      | t :: ts => (l :: t) :: ts

def keys? (scope : Scope) (text : String) : Option (List SortKey) := do
  (terms (← lexemes? [] false text.toList)).mapM (key? scope false)

end OrderText

end CardQuery
