import CardQuery.Pattern.Reader
import CardQuery.Predicate.Builder
import CardQuery.Query.Condition
import CardQuery.Text.Wildcard

namespace CardQuery.Query

def distinct : List Int → List Int
  | [] => []
  | x :: xs => x :: (distinct xs).filter (· != x)

def deckGlob (value : String) : List Wild :=
  value.toList.map fun c => if c = '*' then .run else .lit c

def deckAlphabet : Wild.Alphabet := ⟨(· ≠ '\n'), Text.sameFolded⟩

def deckText (value : String) : String :=
  let pieces := (Text.splitOn '*' value.toList).map (·.flatMap Pattern.escaped)
  String.ofList ('^' :: (List.intercalate ['.', '*'] pieces ++ ['$']))

def deckPattern? (value : String) : Option Pattern.Regex := Pattern.Regex.read? true (deckText value)

def globbedDecks (ds : Decks) (value : String) : List Deck :=
  if (deckPattern? value).isSome then
    ds.all.filter fun d => Wild.accepts deckAlphabet (deckGlob value) d.name.toList
  else []

def deckIds (ds : Decks) (value : String) : List Int :=
  if Text.equalAscii value.toList ['c', 'u', 'r', 'r', 'e', 'n', 't'] then
    (ds.subtree? ds.current).getD []
  else if value.toList.contains '*' then
    distinct ((globbedDecks ds value).flatMap fun d => (ds.subtree? d.id).getD [])
  else ((ds.idOf? value).bind ds.subtree?).getD []

def deck (ds : Decks) (value : String) : Reading Condition :=
  if value = "*" then .everything
  else if value = "filtered" then .condition .borrowed
  else match deckIds ds value with
    | [] => .invalid
    | id :: ids => .condition (.inDecks (id :: ids))

end CardQuery.Query
