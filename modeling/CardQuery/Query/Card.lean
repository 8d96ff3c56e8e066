import CardQuery.Predicate.Builder
import CardQuery.Query.Condition
import CardQuery.Text.Case
import CardQuery.Text.Decimal
import CardQuery.Text.Split

namespace CardQuery.Query

open Number

def secondsPerDay : Int := 86400

def longestReviewSpan : Int := 31

def cutoff? (schedule : Schedule) (days : Int) : Option Int := do
  mul? (← sub? schedule.dayCutoff (← mul? days secondsPerDay)) 1000

def ofCondition? : Option Condition → Reading Condition
  | some c => .condition c
  | none => .invalid

def added (schedule : Schedule) (value : String) : Reading Condition :=
  ofCondition? (((readText? value).bind (cutoff? schedule)).map .createdAfter)

def ease? : List Char → Option Int
  | ['1'] => some 1
  | ['2'] => some 2
  | ['3'] => some 3
  | ['4'] => some 4
  | _ => none

def rated (schedule : Schedule) (value : String) : Reading Condition :=
  ofCondition? <| do
    let parts := Text.splitOn ':' value.toList
    let days ← read? (parts.headD [])
    let millis ← cutoff? schedule (min days longestReviewSpan)
    match parts[1]? with
    | none => return .reviewedAfter millis none
    | some part => return .reviewedAfter millis (some (← ease? part))

def relations : List Relation := [.le, .ge, .ne, .eq, .lt, .gt]

def relationAt (s : List Char) : Option (Relation × List Char) :=
  relations.findSome? fun rel => match Text.dropPart rel.text.toList s with
    | some (c :: r) => some (rel, c :: r)
    | _ => none

def comparison? (before : List Char) : List Char → Option (List Char × Relation × List Char)
  | [] => none
  | c :: s => match if before.isEmpty then none else relationAt (c :: s) with
    | some (rel, r) => some (before.reverse, rel, r)
    | none => comparison? (c :: before) s

def comparing (schedule : Schedule) (name : String) (rel : Relation) (n : Int) : Option Condition :=
  match name with
  | "due" => (add? n schedule.today).map (.dueDay rel)
  | "ivl" => some (.measure .interval rel n)
  | "reps" => some (.measure .repetitions rel n)
  | "lapses" => some (.measure .lapses rel n)
  | "ease" => some (.measure .factor rel n)
  | _ => none

def property (schedule : Schedule) (value : String) : Reading Condition :=
  if value.toList.contains '\n' then .invalid
  else ofCondition? <| do
    let (name, rel, right) ← comparison? [] value.toList
    let name := Text.lower (String.ofList name)
    let n ← if name = "ease" then Decimal.thousandths? right else read? right
    comparing schedule name rel n

def state (schedule : Schedule) (value : String) : Reading Condition :=
  match value with
  | "new" => .condition (.state .new)
  | "review" => .condition (.state .review)
  | "learn" => .condition (.state .learn)
  | "suspended" => .condition (.state .suspended)
  | "buried" => .condition (.state .buried)
  | "due" => .condition (.dueBy schedule.today schedule.dayCutoff)
  | _ => .invalid

end CardQuery.Query
