import TaskQuery.Text.Digit

set_option autoImplicit false

namespace TaskQuery

def Text.compare (a b : Text) : Ordering :=
  List.compareLex Ord.compare a b

-- Of two numbers without zeros in front the longer one is the greater.
def Text.compareRuns (a b : Text) : Ordering :=
  let a : Text := a.dropWhile (· = '0')
  let b : Text := b.dropWhile (· = '0')
  (Ord.compare a.length b.length).then (a.compare b)

/-- The order in which `item 9` comes before `item 10`: where both texts go on with a digit, their
whole runs of digits are compared. -/
def Text.compareNatural : Text → Text → Ordering
  | [], [] => .eq
  | [], _ :: _ => .lt
  | _ :: _, [] => .gt
  | c :: cs, d :: ds =>
    if c.isDigit ∧ d.isDigit then
      (compareRuns (c :: cs.takeWhile Char.isDigit) (d :: ds.takeWhile Char.isDigit)).then
        (compareNatural (cs.dropWhile Char.isDigit) (ds.dropWhile Char.isDigit))
    else (Ord.compare c d).then (compareNatural cs ds)
termination_by cs => cs.length
decreasing_by
  · exact Nat.lt_succ_of_le (List.dropWhile_suffix Char.isDigit).length_le
  · exact Nat.lt_succ_self _

end TaskQuery
