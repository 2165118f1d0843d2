import TaskQuery.Calendar.Long
import TaskQuery.Explanation
import TaskQuery.Task
import TaskQuery.Text.Letter

set_option autoImplicit false

namespace TaskQuery

inductive CountRelation where
  | more | atLeast | less | atMost | exactly
  deriving DecidableEq, Repr

def CountRelation.holds : CountRelation → Nat → Nat → Bool
  | .more, count, bound => bound < count
  | .atLeast, count, bound => bound ≤ count
  | .less, count, bound => count < bound
  | .atMost, count, bound => count ≤ bound
  | .exactly, count, bound => count = bound

def CountRelation.wording : CountRelation → Text
  | .more => "greater than"
  | .atLeast => "at least"
  | .less => "less than"
  | .atMost => "at most"
  | .exactly => "exactly"

inductive DateRelation where
  | before | onOrBefore | on | onOrAfter | after
  deriving DecidableEq, Repr

def DateRelation.holds : DateRelation → Date → DateRange → Bool
  | .before, date, range => date < range.first
  | .onOrBefore, date, range => date ≤ range.last
  | .on, date, range => date ∈ range
  | .onOrAfter, date, range => range.first ≤ date
  | .after, date, range => range.last < date

inductive Condition where
  | dated
  | undated
  | count (relation : CountRelation) (bound : Nat)
  | latest (relation : DateRelation) (range : DateRange)
  deriving DecidableEq

def Condition.accepts : Condition → List Date → Nat → Bool
  | .dated, dates, _ => !dates.isEmpty
  | .undated, dates, _ => dates.isEmpty
  | .count relation bound, _, stored => relation.holds stored bound
  | .latest relation range, dates, _ => (Date.latest? dates).any (relation.holds · range)

def DateRelation.explain (field : Text) (range : DateRange) : DateRelation → Explanation
  | .before => .leaf (field ++ " date is before " ++ range.first.long)
  | .onOrBefore => .leaf (field ++ " date is on or before " ++ range.last.long)
  | .onOrAfter => .leaf (field ++ " date is on or after " ++ range.first.long)
  | .after => .leaf (field ++ " date is after " ++ range.last.long)
  | .on =>
    if range.isSingle then .leaf (field ++ " date is on " ++ range.first.long)
    else .node (field ++ " date is between:")
      [.leaf (range.first.long ++ " and"), .leaf (range.last.long ++ " inclusive")]

def datedPhrase (field : Text) : Text := "has " ++ field ++ " date"

def undatedPhrase (field : Text) : Text := "no " ++ field ++ " date"

def Condition.explain (field : Text) : Condition → Explanation
  | .dated => .leaf (datedPhrase field).lower
  | .undated => .leaf (undatedPhrase field).lower
  | .count relation bound =>
    .leaf (field ++ " count is " ++ relation.wording ++ " " ++ Text.ofNat bound)
  | .latest relation range => relation.explain field range

end TaskQuery
