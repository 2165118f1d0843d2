import Mathlib.Order.MinMax
import TaskQuery.Calendar.DayNumber
import TaskQuery.Calendar.Range
import TaskQuery.Task

set_option autoImplicit false

namespace TaskQuery

theorem Date.lt_def (a b : Date) :
    a < b ↔ a.year < b.year ∨ a.year = b.year ∧
      (a.month < b.month ∨ a.month = b.month ∧ a.day < b.day) :=
  Iff.rfl

theorem Date.le_def (a b : Date) : a ≤ b ↔ ¬ b < a :=
  Iff.rfl

theorem Date.ext {a b : Date} (year : a.year = b.year) (month : a.month = b.month)
    (day : a.day = b.day) : a = b := by
  cases a
  cases b
  simp_all

instance : LinearOrder Date where
  le_refl a := by
    rw [Date.le_def, Date.lt_def]
    omega
  le_trans a b c := by
    simp only [Date.le_def, Date.lt_def]
    omega
  le_antisymm a b := by
    simp only [Date.le_def, Date.lt_def]
    intro ab ba
    apply Date.ext <;> omega
  le_total := Date.le_total
  lt_iff_le_not_ge a b := by
    simp only [Date.le_def, Date.lt_def]
    omega
  toOrd := inferInstance
  toDecidableLE := inferInstance
  toDecidableEq := inferInstance
  toDecidableLT := inferInstance
  compare_eq_compareOfLessAndEq a b := rfl

theorem Date.number_lt_number {a b : Date} (earlier : a < b) : a.number < b.number := by
  have lower := b.number_bounds.1
  have upper := a.number_bounds.2
  rcases earlier with year | ⟨year, month | ⟨month, day⟩⟩
  · have := daysBeforeYear_mono (Int.add_one_le_of_lt year)
    omega
  · have next := daysBeforeMonth_succ a.year a.month a.valid.month_ge
    have later : daysBeforeMonth a.year (a.month + 1) ≤ daysBeforeMonth a.year b.month :=
      daysBeforeMonth_mono a.year month
    have ge := b.valid.day_ge
    have le := a.valid.day_le
    unfold Date.number
    rw [← year]
    omega
  · unfold Date.number
    rw [← year, ← month]
    omega

theorem Date.number_lt_iff (a b : Date) : a.number < b.number ↔ a < b := by
  constructor
  · intro less
    rcases lt_trichotomy a b with earlier | rfl | later
    · exact earlier
    · omega
    · have := number_lt_number later
      omega
  · exact number_lt_number

theorem Date.number_le_iff (a b : Date) : a.number ≤ b.number ↔ a ≤ b := by
  rw [← not_lt, b.number_lt_iff a, not_lt]

theorem DateRange.mem_iff (range : DateRange) (date : Date) :
    date ∈ range ↔ range.first ≤ date ∧ date ≤ range.last :=
  Iff.rfl

theorem DateRange.mem_between {a b : Date} (le : a ≤ b) (date : Date) :
    date ∈ DateRange.between a b ↔ a ≤ date ∧ date ≤ b := by
  rw [DateRange.between, dif_pos le]
  rfl

theorem Date.later_eq_max (a b : Date) : later a b = max a b := by
  unfold later
  split
  next less => exact (max_eq_right_of_lt less).symm
  next less => exact (max_eq_left (not_lt.mp less)).symm

theorem Date.foldl_later (date : Date) (dates : List Date) :
    dates.foldl later date ∈ date :: dates ∧
      ∀ other ∈ date :: dates, other ≤ dates.foldl later date := by
  induction dates generalizing date with
  | nil => simp
  | cons next dates ih =>
    obtain ⟨member, greatest⟩ := ih (later date next)
    have bound := greatest (later date next) (by simp)
    rw [later_eq_max] at member bound
    simp only [List.foldl_cons, List.forall_mem_cons, later_eq_max]
    refine ⟨?_, (le_max_left _ _).trans bound, (le_max_right _ _).trans bound, ?_⟩
    · rcases List.mem_cons.mp member with same | member
      · rw [same]
        rcases max_choice date next with choice | choice <;> simp [choice]
      · simp [member]
    · intro other inRest
      have := greatest other (List.mem_cons_of_mem _ inRest)
      rwa [later_eq_max] at this

theorem Date.latest?_eq_none_iff (dates : List Date) : latest? dates = none ↔ dates = [] := by
  cases dates <;> simp [latest?]

theorem Date.latest?_eq_some_iff (dates : List Date) (latest : Date) :
    latest? dates = some latest ↔ latest ∈ dates ∧ ∀ date ∈ dates, date ≤ latest := by
  cases dates with
  | nil => simp [latest?]
  | cons date dates =>
    obtain ⟨member, greatest⟩ := foldl_later date dates
    simp only [latest?, Option.some.injEq]
    constructor
    · intro same
      rw [← same]
      exact ⟨member, greatest⟩
    · intro ⟨inDates, bound⟩
      exact le_antisymm (bound _ member) (greatest _ inDates)

theorem Date.latest?_perm {dates others : List Date} (perm : dates.Perm others) :
    latest? dates = latest? others := by
  ext latest
  simp only [latest?_eq_some_iff, perm.mem_iff]

end TaskQuery
