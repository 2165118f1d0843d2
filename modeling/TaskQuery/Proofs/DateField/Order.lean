import TaskQuery.DateField.Basic
import TaskQuery.Proofs.Calendar.Order

set_option autoImplicit false

namespace TaskQuery

instance : Std.TransCmp compareDates where
  eq_swap := by
    intro a b
    cases a <;> cases b <;> simp [compareDates]
    exact Std.OrientedOrd.eq_swap
  isLE_trans := by
    intro a b c
    cases a <;> cases b <;> cases c <;> simp [compareDates]
    exact Std.TransOrd.isLE_trans

theorem compareDates_eq_eq (a b : Option Date) : compareDates a b = .eq ↔ a = b := by
  cases a <;> cases b <;> simp [compareDates]

def Sooner (a b : Option Date) : Prop :=
  ∃ day, a = some day ∧ ∀ other, b = some other → day < other

theorem compareDates_eq_lt (a b : Option Date) : compareDates a b = .lt ↔ Sooner a b := by
  cases a <;> cases b <;> simp [compareDates, Sooner, compare_lt_iff_lt]

theorem sooner_of_undated {dates others : List Date} (dated : dates ≠ []) (undated : others = []) :
    Sooner (Date.latest? dates) (Date.latest? others) := by
  obtain ⟨day, found⟩ := Option.ne_none_iff_exists'.mp
    (mt (Date.latest?_eq_none_iff dates).mp dated)
  refine ⟨day, found, ?_⟩
  intro other latest
  rw [(Date.latest?_eq_none_iff others).mpr undated] at latest
  cases latest

instance (dates : Task → List Date) : Std.TransCmp (compareLatest dates) where
  eq_swap := by
    intro a b
    unfold compareLatest
    exact Std.OrientedCmp.eq_swap
  isLE_trans := by
    intro a b c
    unfold compareLatest
    exact Std.TransCmp.isLE_trans

theorem DateField.lawful (dates : List DateField) : ∀ field ∈ dates.map DateField.field,
    ∀ order, field.compare? = some order → Std.TransCmp order := by
  intro field member order compares
  obtain ⟨dateField, _, rfl⟩ := List.mem_map.mp member
  rw [← Option.some.inj compares]
  exact inferInstanceAs (Std.TransCmp (compareLatest dateField.dates))

end TaskQuery
