/-!
JSON values. Only whole numbers keep their value; every other number is `real`. A text is `none` when
an escape in it leaves half of a surrogate pair.
-/

namespace CardQuery

inductive Json where
  | null
  | bool (b : Bool)
  | int (n : Int)
  | real
  | string (s : Option String)
  | array (items : List Json)
  | object (members : List (Option String × Json))
  deriving Repr, Inhabited

end CardQuery
