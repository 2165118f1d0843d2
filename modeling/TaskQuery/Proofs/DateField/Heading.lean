import TaskQuery.DateField.Basic
import TaskQuery.Proofs.Text.NaturalOrder

set_option autoImplicit false

namespace TaskQuery

namespace Text

theorem count_letter_partsBehind (run : Option Nat) (cs : Text) (c : Char)
    (letter : c.isDigit = false) : (partsBehind run cs).count (.letter c) = cs.count c := by
  induction cs generalizing run with
  | nil => cases run <;> simp [partsBehind]
  | cons d cs ih =>
    cases digit : d.isDigit with
    | true =>
      have other : d ≠ c := by
        rintro rfl
        exact absurd letter (by simp [digit])
      cases run <;> simp [partsBehind, digit, ih, other]
    | false =>
      cases run <;> simp [partsBehind, digit, ih, List.count_cons]

theorem count_parts (cs : Text) (c : Char) (letter : c.isDigit = false) :
    cs.parts.count (.letter c) = cs.count c :=
  count_letter_partsBehind none cs c letter

end Text

theorem Part.compareLex_append_of_not_prefix (as front back : List Part)
    (plainA : ∀ part ∈ as, part.Plain) (plainF : ∀ part ∈ front, part.Plain)
    (apart : ¬ front <+: as) :
    List.compareLex Part.compare as (front ++ back) = List.compareLex Part.compare as front := by
  induction front generalizing as with
  | nil => exact absurd List.nil_prefix apart
  | cons part front ih =>
    cases as with
    | nil => rfl
    | cons a as =>
      rw [List.forall_mem_cons] at plainA plainF
      rw [List.cons_append, List.compareLex_cons_cons, List.compareLex_cons_cons]
      cases order : a.compare part with
      | lt => rfl
      | gt => rfl
      | eq =>
        have same : a = part := (a.compare_eq_eq part plainA.1 plainF.1).mp order
        rw [ih as plainA.2 plainF.2]
        intro begins
        exact apart (List.cons_prefix_cons.mpr ⟨same.symm, begins⟩)

namespace Text

theorem compareNatural_append_of_not_prefix (cs front back : Text)
    (opens : ∀ c ∈ front.getLast?, c.isDigit = false) (apart : ¬ front.parts <+: cs.parts) :
    cs.compareNatural (front ++ back) = cs.compareNatural front ∧
      cs.compareNatural front ≠ .eq := by
  constructor
  · rw [compareNatural_eq, compareNatural_eq, parts_append front back opens]
    exact Part.compareLex_append_of_not_prefix _ _ _ (plain_of_mem_partsBehind none cs)
      (plain_of_mem_partsBehind none front) apart
  · rw [ne_eq, compareNatural_eq_eq, unpadded_eq_iff]
    intro same
    exact apart (same ▸ List.prefix_rfl)

theorem count_colon_capitalized (cs : Text) : cs.count ':' ≤ cs.capitalized.count ':' := by
  cases cs with
  | nil => exact Nat.le_refl _
  | cons c cs =>
    rw [capitalized, List.count_append, List.count_cons]
    split
    next colon =>
      obtain rfl : c = ':' := by simpa using colon
      have kept : (upperOf ':').count ':' = 1 := by decide
      omega
    next => omega

end Text

namespace DateField

variable (field : DateField)

def counted : Text :=
  field.name.capitalized ++ ": "

def undatedHeading : Text :=
  "No " ++ field.name ++ " dates"

def times (count : Nat) : Text :=
  if count = 1 then " time" else " times"

def headingOf (count : Nat) : Text :=
  if count = 0 then field.undatedHeading else field.counted ++ Text.ofNat count ++ times count

theorem heading_eq (task : Task) :
    field.heading task = field.headingOf (field.dates task).length := by
  unfold heading headingOf
  split
  next none => rw [none, if_pos rfl, undatedHeading]
  next once =>
    have one : Text.ofNat 1 = ['1'] := by decide
    rw [once, if_neg (by decide), counted, times, if_pos rfl, one]
    simp [Text.ofString_eq]
  next dated often =>
    rw [if_neg dated, counted, times, if_neg often]

theorem headingOf_positive {count : Nat} (positive : 0 < count) :
    field.headingOf count = field.counted ++ Text.ofNat count ++ times count :=
  if_neg (Nat.ne_of_gt positive)

theorem run_counted (count : Nat) :
    Text.Run field.counted (Text.ofNat count) (times count) where
  number := Text.isNumber_ofNat count
  opens := by simp [counted, Text.ofString_eq]
  closes := by
    unfold times
    split <;> simp [Text.ofString_eq]

theorem compare_headingOf {a b : Nat} (positive : 0 < a) (positive' : 0 < b) (differ : a ≠ b) :
    (field.headingOf a).compareNatural (field.headingOf b) = Ord.compare a b := by
  rw [field.headingOf_positive positive, field.headingOf_positive positive',
    (field.run_counted a).compareNatural (field.run_counted b) rfl, Text.value_ofNat,
    Text.value_ofNat]
  cases order : Ord.compare a b with
  | lt => rfl
  | gt => rfl
  | eq => exact absurd (Nat.compare_eq_eq.mp order) differ

theorem counted_not_prefix : ¬ field.counted.parts <+: field.undatedHeading.parts := by
  intro begins
  -- Capitals change no colon, and of the two headings only one has a colon of its own.
  have colons := begins.sublist.count_le (.letter ':')
  rw [Text.count_parts _ _ rfl, Text.count_parts _ _ rfl] at colons
  have kept := Text.count_colon_capitalized field.name
  simp [counted, undatedHeading, Text.ofString_eq] at colons
  omega

def undatedFirst : Bool :=
  field.undatedHeading.compareNatural field.counted = .lt

theorem compare_undatedHeading {count : Nat} (positive : 0 < count) :
    (field.headingOf 0).compareNatural (field.headingOf count) =
      if field.undatedFirst then .lt else .gt := by
  have decided := Text.compareNatural_append_of_not_prefix field.undatedHeading field.counted
    (Text.ofNat count ++ times count) (field.run_counted count).opens field.counted_not_prefix
  rw [field.headingOf_positive positive, headingOf, if_pos rfl, List.append_assoc, decided.1,
    undatedFirst]
  cases order : field.undatedHeading.compareNatural field.counted with
  | lt => rfl
  | gt => rfl
  | eq => exact absurd order decided.2

theorem compare_headingOf_undated {count : Nat} (positive : 0 < count) :
    (field.headingOf count).compareNatural (field.headingOf 0) =
      if field.undatedFirst then .gt else .lt := by
  have swapped : (field.headingOf count).compareNatural (field.headingOf 0) =
      ((field.headingOf 0).compareNatural (field.headingOf count)).swap := Std.OrientedCmp.eq_swap
  rw [swapped, field.compare_undatedHeading positive]
  split <;> rfl

theorem compare_headingOf_ne {a b : Nat} (differ : a ≠ b) :
    (field.headingOf a).compareNatural (field.headingOf b) ≠ .eq := by
  rcases Nat.eq_zero_or_pos a with rfl | positive
  · rw [field.compare_undatedHeading (Nat.pos_of_ne_zero differ.symm)]
    split <;> decide
  · rcases Nat.eq_zero_or_pos b with rfl | positive'
    · rw [field.compare_headingOf_undated positive]
      split <;> decide
    · rw [field.compare_headingOf positive positive' differ, ne_eq, Nat.compare_eq_eq]
      exact differ

theorem headingOf_inj (a b : Nat) : field.headingOf a = field.headingOf b ↔ a = b := by
  constructor
  · intro same
    refine Decidable.byContradiction fun differ => field.compare_headingOf_ne differ ?_
    rw [same]
    exact Std.ReflCmp.compare_self
  · intro same
    rw [same]

end DateField

end TaskQuery
