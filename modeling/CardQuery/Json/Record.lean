import CardQuery.Json.Value
import CardQuery.Text.Number

namespace CardQuery.Json

def record? (names : List String) : Json → Option (List (Option Json))
  | .array items =>
    if items.length ≤ names.length then
      some (items.map some ++ List.replicate (names.length - items.length) none)
    else none
  | .object members => names.mapM fun name =>
    if members.any (·.1.isNone) then none
    else match members.filter (·.1 == some name) with
      | [] => some none
      | [(_, v)] => some (some v)
      | _ => none
  | _ => none

def int? (lo hi : Int) : Json → Option Int
  | .int n => if lo ≤ n && n ≤ hi then some n else none
  | _ => none

def int64? : Json → Option Int := int? (-0x8000000000000000) 0x7fffffffffffffff

def int32? : Json → Option Int := int? (-0x80000000) 0x7fffffff

def size? (v : Json) : Option Nat := (int? 0 0xffffffffffffffff v).map Int.toNat

def text? : Json → Option String
  | .string s => s
  | _ => none

def bool? : Json → Option Bool
  | .bool b => some b
  | _ => none

def list? {α : Type} (item? : Json → Option α) : Json → Option (List α)
  | .array items => items.mapM item?
  | _ => none

def required {α : Type} (value? : Json → Option α) (v : Option Json) : Option α :=
  v.bind value?

def withDefault {α : Type} (default : α) (value? : Json → Option α) : Option Json → Option α
  | none => some default
  | some v => value? v

end CardQuery.Json
