set_option autoImplicit false

namespace TaskQuery

def Leap (year : Int) : Prop :=
  (year % 4 = 0 ∧ year % 100 ≠ 0) ∨ year % 400 = 0

instance (year : Int) : Decidable (Leap year) :=
  inferInstanceAs (Decidable (_ ∨ _))

def monthLength (year : Int) : Nat → Nat
  | 2 => if Leap year then 29 else 28
  | 4 | 6 | 9 | 11 => 30
  | _ => 31

theorem monthLength_pos (year : Int) (month : Nat) : 0 < monthLength year month := by
  unfold monthLength
  split
  next => split <;> decide
  all_goals decide

structure OnCalendar (year : Int) (month day : Nat) : Prop where
  year_ge : -9999 ≤ year
  year_le : year ≤ 9999
  month_ge : 1 ≤ month
  month_le : month ≤ 12
  day_ge : 1 ≤ day
  day_le : day ≤ monthLength year month

instance (year : Int) (month day : Nat) : Decidable (OnCalendar year month day) :=
  decidable_of_iff
    ((-9999 ≤ year ∧ year ≤ 9999) ∧ (1 ≤ month ∧ month ≤ 12) ∧
      1 ≤ day ∧ day ≤ monthLength year month)
    ⟨fun ⟨⟨a, b⟩, ⟨c, d⟩, e, f⟩ => ⟨a, b, c, d, e, f⟩,
      fun ⟨a, b, c, d, e, f⟩ => ⟨⟨a, b⟩, ⟨c, d⟩, e, f⟩⟩

/-- A day of the Gregorian calendar, carried back before its introduction. -/
structure Date where
  year : Int
  month : Nat
  day : Nat
  valid : OnCalendar year month day
  deriving DecidableEq

def Date.of? (year : Int) (month day : Nat) : Option Date :=
  if valid : OnCalendar year month day then some ⟨year, month, day, valid⟩ else none

theorem Date.of?_eq_some (year : Int) (month day : Nat) (date : Date) :
    of? year month day = some date ↔
      date.year = year ∧ date.month = month ∧ date.day = day := by
  unfold of?
  split
  next valid =>
    obtain ⟨y, m, d, _⟩ := date
    simp only [Option.some.injEq, Date.mk.injEq]
    constructor <;> rintro ⟨rfl, rfl, rfl⟩ <;> exact ⟨rfl, rfl, rfl⟩
  next invalid =>
    simp only [reduceCtorEq, false_iff]
    rintro ⟨rfl, rfl, rfl⟩
    exact invalid date.valid

instance : LT Date where
  lt a b :=
    a.year < b.year ∨ a.year = b.year ∧
      (a.month < b.month ∨ a.month = b.month ∧ a.day < b.day)

instance : LE Date where
  le a b := ¬ b < a

instance (a b : Date) : Decidable (a < b) :=
  inferInstanceAs (Decidable (_ ∨ _))

instance (a b : Date) : Decidable (a ≤ b) :=
  inferInstanceAs (Decidable (¬ _))

instance : Ord Date where
  compare a b := compareOfLessAndEq a b

theorem Date.le_total (a b : Date) : a ≤ b ∨ b ≤ a := by
  change ¬ (_ ∨ _) ∨ ¬ (_ ∨ _)
  omega

end TaskQuery
