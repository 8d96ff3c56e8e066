import CardQuery.Search.Column
import CardQuery.Text.Compare

namespace CardQuery

inductive Collation where
  | binary
  | nocase
  deriving DecidableEq, Repr

structure SortKey where
  column : Column
  negated : Bool
  collation : Collation
  descending : Bool
  deriving DecidableEq, Repr

namespace Cell

def fold (s : String) : List Char := s.toList.map Char.toLower

def compare (collation : Collation) : Option Cell → Option Cell → Ordering
  | some (.int a), some (.int b) => Ord.compare a b
  | some (.text a), some (.text b) => match collation with
    | .binary => Text.compare a.toList b.toList
    | .nocase => Text.compare (fold a) (fold b)
  | some (.int _), some (.text _) => .lt
  | some (.text _), some (.int _) => .gt
  | none, none => .eq
  | none, some _ => .lt
  | some _, none => .gt

end Cell

namespace SortKey

def ascending (column : Column) : SortKey := ⟨column, false, .binary, false⟩

def ignoringCase (column : Column) : SortKey := ⟨column, false, .nocase, false⟩

def text (k : SortKey) : String :=
  (if k.negated then "-" else "") ++ k.column.text ++
    (if k.collation = .nocase then " collate nocase" else "") ++
    (if k.descending then " desc" else "")

def cell (k : SortKey) (row : Row) : Option Cell :=
  match k.column.value row with
  | some (.int n) => some (.int (if k.negated then -n else n))
  | other => other

def compare (k : SortKey) (a b : Row) : Ordering :=
  let o := Cell.compare k.collation (k.cell a) (k.cell b)
  if k.descending then o.swap else o

def compareAll : List SortKey → Row → Row → Ordering
  | [], _, _ => .eq
  | k :: ks, a, b => (k.compare a b).then (compareAll ks a b)

def sort (keys : List SortKey) (rows : List Row) : List Row :=
  Sorting.sort (fun a b => compareAll keys a b != .gt) rows

end SortKey

end CardQuery
