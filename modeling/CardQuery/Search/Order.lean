import CardQuery.Search.OrderText

namespace CardQuery

inductive OrderRequest where
  | unordered
  | builtin (wanted : Bool)
  | written (text : String)
  deriving DecidableEq, Repr

inductive Order where
  | unordered
  | keys (ks : List SortKey)
  | written (text : String)
  deriving DecidableEq, Repr

namespace Order

def text : Order → String
  | unordered => ""
  | keys ks => ", ".intercalate (ks.map SortKey.text)
  | written s => s

def clause (o : Order) : String := if o.text.isEmpty then "" else " order by " ++ o.text

def keys? (scope : Scope) : Order → Option (List SortKey)
  | unordered => some []
  | keys ks => some ks
  | written s => OrderText.keys? scope s

def byNote : List SortKey := [.ascending (.note .id), .ascending (.card .ord)]

def builtins : List (String × List SortKey) :=
  [("noteCrt", byNote),
   ("noteMod", [.ascending (.note .mod), .ascending (.card .ord)]),
   ("noteFld", [.ignoringCase (.note .sfld), .ascending (.card .ord)]),
   ("cardMod", [.ascending (.card .mod)]),
   ("cardReps", [.ascending (.card .reps)]),
   ("cardDue", [.ascending (.card .type), .ascending (.card .due)]),
   ("cardEase", [.ascending (.card .factor)]),
   ("cardLapses", [.ascending (.card .lapses)]),
   ("cardIvl", [.ascending (.card .ivl)])]

def builtin (sortType : String) : List SortKey :=
  ((builtins.find? fun (name, _) => name.toList.isPrefixOf sortType.toList).map (·.2)).getD byNote

end Order

structure Arrangement where
  order : Order
  reversed : Bool
  deriving DecidableEq, Repr

def OrderRequest.resolve (config : Config) : OrderRequest → Arrangement
  | unordered => ⟨.unordered, false⟩
  | builtin false => ⟨.unordered, false⟩
  | builtin true => ⟨.keys (Order.builtin config.sortType), config.sortBackwards⟩
  | written s => ⟨if s.isEmpty then .unordered else .written s, false⟩

end CardQuery
