import TaskQuery.Calendar.Date

set_option autoImplicit false

namespace TaskQuery

structure DateRange where
  first : Date
  last : Date
  ordered : first ≤ last
  deriving DecidableEq

def DateRange.between (a b : Date) : DateRange :=
  if h : a ≤ b then ⟨a, b, h⟩ else ⟨b, a, (Date.le_total a b).resolve_left h⟩

def DateRange.single (date : Date) : DateRange :=
  between date date

def DateRange.isSingle (range : DateRange) : Bool :=
  range.first = range.last

instance : Membership Date DateRange where
  mem range date := range.first ≤ date ∧ date ≤ range.last

instance (date : Date) (range : DateRange) : Decidable (date ∈ range) :=
  inferInstanceAs (Decidable (_ ∧ _))

end TaskQuery
