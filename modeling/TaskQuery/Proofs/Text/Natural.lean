import Mathlib.Algebra.Order.Group.Nat
import Mathlib.Data.List.TakeWhile
import Mathlib.Tactic.Ring
import TaskQuery.Text.Natural

set_option autoImplicit false

namespace TaskQuery

namespace Text

theorem toNat_of_isDigit (c : Char) (digit : c.isDigit = true) : 48 ≤ c.toNat ∧ c.toNat ≤ 57 := by
  simp only [Char.isDigit, Bool.and_eq_true, decide_eq_true_eq] at digit
  exact digit

theorem ofDigitChars_eq (digits : Text) (n : Nat) :
    Nat.ofDigitChars 10 digits n = n * 10 ^ digits.length + digits.value := by
  induction digits generalizing n with
  | nil => simp [value]
  | cons c digits ih =>
    rw [value, Nat.ofDigitChars_cons, Nat.ofDigitChars_cons, ih, ih (10 * 0 + _), List.length_cons]
    ring

theorem value_cons (c : Char) (digits : Text) :
    value (c :: digits) = digitValue c * 10 ^ digits.length + digits.value := by
  rw [value, Nat.ofDigitChars_cons, ofDigitChars_eq, Nat.mul_zero, Nat.zero_add, digitValue]

theorem value_lt (digits : Text) (all : ∀ c ∈ digits, c.isDigit = true) :
    digits.value < 10 ^ digits.length := by
  induction digits with
  | nil => simp [value]
  | cons c digits ih =>
    rw [List.forall_mem_cons] at all
    have small : digitValue c + 1 ≤ 10 := by
      have code := toNat_of_isDigit c all.1
      simp only [digitValue, Char.reduceToNat]
      omega
    calc value (c :: digits)
      _ = digitValue c * 10 ^ digits.length + value digits := value_cons c digits
      _ < digitValue c * 10 ^ digits.length + 10 ^ digits.length := Nat.add_lt_add_left (ih all.2) _
      _ = (digitValue c + 1) * 10 ^ digits.length := by ring
      _ ≤ 10 * 10 ^ digits.length := Nat.mul_le_mul_right _ small
      _ = 10 ^ (c :: digits).length := by rw [List.length_cons, Nat.pow_succ, Nat.mul_comm]

theorem value_trimmed (digits : Text) : value (digits.dropWhile (· = '0')) = value digits := by
  induction digits with
  | nil => rfl
  | cons c digits ih =>
    rw [List.dropWhile_cons]
    split
    next zero =>
      obtain rfl : c = '0' := by simpa using zero
      rw [ih, value_cons]
      simp [digitValue]
    next => rfl

theorem pow_le_value (digits : Text) (all : ∀ c ∈ digits, c.isDigit = true)
    (first : ∀ c ∈ digits.head?, c ≠ '0') (n : Nat) (less : n < digits.length) :
    10 ^ n ≤ digits.value := by
  cases digits with
  | nil => cases less
  | cons c digits =>
    have code := toNat_of_isDigit c (all c List.mem_cons_self)
    have other : c.toNat ≠ '0'.toNat := fun same => first c rfl (Char.toNat_inj.mp same)
    have positive : 1 ≤ digitValue c := by
      simp only [digitValue, Char.reduceToNat] at other ⊢
      omega
    rw [List.length_cons, Nat.lt_succ_iff] at less
    calc 10 ^ n
      _ ≤ 10 ^ digits.length := Nat.pow_le_pow_right (by decide) less
      _ ≤ digitValue c * 10 ^ digits.length := Nat.le_mul_of_pos_left _ positive
      _ ≤ value (c :: digits) := by rw [value_cons]; exact Nat.le_add_right _ _

theorem compare_congr {a b m n : Nat} (less : a < b ↔ m < n) (more : b < a ↔ n < m) :
    Ord.compare a b = Ord.compare m n := by
  cases order : Ord.compare m n with
  | lt => exact Nat.compare_eq_lt.mpr (less.mpr (Nat.compare_eq_lt.mp order))
  | gt => exact Nat.compare_eq_gt.mpr (more.mpr (Nat.compare_eq_gt.mp order))
  | eq =>
    have same := Nat.compare_eq_eq.mp order
    rw [Nat.compare_eq_eq]
    omega

theorem compare_char (c d : Char) : Ord.compare c d = Ord.compare c.toNat d.toNat := by
  rcases Nat.lt_trichotomy c.toNat d.toNat with less | same | more
  · rw [Nat.compare_eq_lt.mpr less]
    exact compareOfLessAndEq_eq_lt.mpr less
  · rw [Char.toNat_inj.mp same, Std.ReflOrd.compare_self, Std.ReflOrd.compare_self]
  · have behind : Ord.compare d c = .lt := compareOfLessAndEq_eq_lt.mpr more
    rw [Nat.compare_eq_gt.mpr more, Std.OrientedOrd.eq_swap, behind]
    rfl

theorem compare_digits (c d : Char) (digit : c.isDigit = true) (digit' : d.isDigit = true) :
    Ord.compare c d = Ord.compare (digitValue c) (digitValue d) := by
  obtain ⟨low, _⟩ := toNat_of_isDigit c digit
  obtain ⟨low', _⟩ := toNat_of_isDigit d digit'
  rw [compare_char]
  apply compare_congr <;> simp only [digitValue, Char.reduceToNat] <;> omega

theorem compare_mul_add (m n x y base : Nat) (small : x < base) (small' : y < base) :
    Ord.compare (m * base + x) (n * base + y) = (Ord.compare m n).then (Ord.compare x y) := by
  have apart {m n x y : Nat} (less : m < n) (small : x < base) : m * base + x < n * base + y := by
    have := Nat.mul_le_mul_right base (Nat.succ_le_of_lt less)
    rw [Nat.succ_mul] at this
    omega
  rcases Nat.lt_trichotomy m n with less | rfl | more
  · rw [Nat.compare_eq_lt.mpr less, Nat.compare_eq_lt.mpr (apart less small)]
    rfl
  · rw [Nat.compare_eq_eq.mpr rfl]
    exact compare_congr (by omega) (by omega)
  · rw [Nat.compare_eq_gt.mpr more, Nat.compare_eq_gt.mpr (apart more small')]
    rfl

theorem compare_eq_compare_value (a b : Text) (same : a.length = b.length)
    (digits : ∀ c ∈ a, c.isDigit = true) (digits' : ∀ c ∈ b, c.isDigit = true) :
    a.compare b = Ord.compare a.value b.value := by
  induction a generalizing b with
  | nil =>
    obtain rfl := List.length_eq_zero_iff.mp same.symm
    rfl
  | cons c a ih =>
    cases b with
    | nil => cases same
    | cons d b =>
      rw [List.forall_mem_cons] at digits digits'
      rw [List.length_cons, List.length_cons, Nat.succ_inj] at same
      have small := value_lt a digits.2
      rw [same] at small
      rw [value_cons, value_cons, same, compare_mul_add _ _ _ _ _ small (value_lt b digits'.2),
        ← compare_digits c d digits.1 digits'.1, ← ih b same digits.2 digits'.2]
      exact List.compareLex_cons_cons

theorem trimmed_digits {digits : Text} (all : ∀ c ∈ digits, c.isDigit = true) :
    (∀ c ∈ digits.dropWhile (· = '0'), c.isDigit = true) ∧
      ∀ c ∈ (digits.dropWhile (· = '0')).head?, c ≠ '0' := by
  constructor
  · exact fun c member => all c ((List.dropWhile_suffix _).mem member)
  · intro c first
    have stop := List.head?_dropWhile_not (fun c => decide (c = '0')) digits
    rw [Option.mem_def.mp first] at stop
    simpa using stop

theorem compareRuns_eq (a b : Text) (digits : ∀ c ∈ a, c.isDigit = true)
    (digits' : ∀ c ∈ b, c.isDigit = true) : a.compareRuns b = Ord.compare a.value b.value := by
  obtain ⟨all, first⟩ := trimmed_digits digits
  obtain ⟨all', first'⟩ := trimmed_digits digits'
  rw [compareRuns, ← value_trimmed a, ← value_trimmed b]
  generalize a.dropWhile (· = '0') = a at all first ⊢
  generalize b.dropWhile (· = '0') = b at all' first' ⊢
  rcases Nat.lt_trichotomy a.length b.length with shorter | same | longer
  · have less := Nat.lt_of_lt_of_le (value_lt a all) (pow_le_value b all' first' _ shorter)
    rw [Nat.compare_eq_lt.mpr shorter, Nat.compare_eq_lt.mpr less]
    rfl
  · rw [Nat.compare_eq_eq.mpr same, compare_eq_compare_value a b same all all']
    rfl
  · have more := Nat.lt_of_lt_of_le (value_lt b all') (pow_le_value a all first _ longer)
    rw [Nat.compare_eq_gt.mpr longer, Nat.compare_eq_gt.mpr more]
    rfl

end Text

/-- A part of a text for ordering: a whole run of digits by its value, or one other character. -/
inductive Part where
  | number (value : Nat)
  | letter (c : Char)
  deriving DecidableEq, Repr

-- Every digit stands on the same side of a character that is not one.
def Part.compare : Part → Part → Ordering
  | .number m, .number n => Ord.compare m n
  | .number _, .letter c => Ord.compare '0' c
  | .letter c, .number _ => Ord.compare c '0'
  | .letter c, .letter d => Ord.compare c d

def Text.partsBehind : (run : Option Nat) → Text → List Part
  | none, [] => []
  | some n, [] => [.number n]
  | none, c :: cs =>
    if c.isDigit then partsBehind (some (digitValue c)) cs else .letter c :: partsBehind none cs
  | some n, c :: cs =>
    if c.isDigit then partsBehind (some (10 * n + digitValue c)) cs
    else .number n :: .letter c :: partsBehind none cs

def Text.parts (cs : Text) : List Part :=
  partsBehind none cs

namespace Text

theorem partsBehind_digits (n : Nat) (run back : Text) (digits : ∀ c ∈ run, c.isDigit = true)
    (closes : ∀ c ∈ back.head?, c.isDigit = false) :
    partsBehind (some n) (run ++ back) =
      .number (Nat.ofDigitChars 10 run n) :: partsBehind none back := by
  induction run generalizing n with
  | nil =>
    cases back with
    | nil => rfl
    | cons c back => simp [partsBehind, closes c rfl]
  | cons c run ih =>
    rw [List.forall_mem_cons] at digits
    simp [partsBehind, digits.1, ih _ digits.2, digitValue, Nat.ofDigitChars_cons]

theorem parts_cons_digit (c : Char) (cs : Text) (digit : c.isDigit = true) :
    parts (c :: cs) = .number (value (c :: cs.takeWhile Char.isDigit)) ::
      parts (cs.dropWhile Char.isDigit) := by
  have digits : ∀ d ∈ cs.takeWhile Char.isDigit, d.isDigit = true := fun _ =>
    List.mem_takeWhile_imp
  have closes : ∀ d ∈ (cs.dropWhile Char.isDigit).head?, d.isDigit = false := by
    intro d first
    have stop := List.head?_dropWhile_not Char.isDigit cs
    rw [Option.mem_def.mp first] at stop
    simpa using stop
  have run := partsBehind_digits (digitValue c) _ _ digits closes
  rw [List.takeWhile_append_dropWhile] at run
  have whole : value (c :: cs.takeWhile Char.isDigit) =
      Nat.ofDigitChars 10 (cs.takeWhile Char.isDigit) (digitValue c) := by
    rw [value, Nat.ofDigitChars_cons, Nat.mul_zero, Nat.zero_add, digitValue]
  rw [parts, partsBehind, if_pos digit, run, whole, parts]

theorem parts_cons_letter (c : Char) (cs : Text) (letter : c.isDigit = false) :
    parts (c :: cs) = .letter c :: cs.parts := by
  simp [parts, partsBehind, letter]

theorem compare_digit_letter (c d : Char) (digit : c.isDigit = true) (letter : d.isDigit = false) :
    Ord.compare c d = Ord.compare '0' d ∧ Ord.compare c d ≠ .eq := by
  have code := toNat_of_isDigit c digit
  -- The code points of the digits lie side by side.
  have outside : d.toNat < 48 ∨ 57 < d.toNat := by
    simp only [Char.isDigit, Bool.and_eq_false_iff, decide_eq_false_iff_not] at letter
    rcases letter with low | high
    · exact .inl (Nat.lt_of_not_le low)
    · exact .inr (Nat.lt_of_not_le high)
  rw [compare_char, compare_char]
  constructor
  · apply compare_congr <;> simp only [Char.reduceToNat] <;> omega
  · rw [ne_eq, Nat.compare_eq_eq]
    omega

theorem then_of_ne_eq {order : Ordering} (decided : order ≠ .eq) (rest other : Ordering) :
    order.then rest = order.then other := by
  cases order with
  | lt => rfl
  | gt => rfl
  | eq => exact absurd rfl decided

theorem compareNatural_eq (a b : Text) :
    a.compareNatural b = List.compareLex Part.compare a.parts b.parts := by
  induction a, b using compareNatural.induct with
  | case1 =>
    rw [compareNatural]
    rfl
  | case2 d ds =>
    rw [compareNatural]
    cases digit : d.isDigit with
    | true => rw [parts_cons_digit d ds digit]; rfl
    | false => rw [parts_cons_letter d ds digit]; rfl
  | case3 c cs =>
    rw [compareNatural]
    cases digit : c.isDigit with
    | true => rw [parts_cons_digit c cs digit]; rfl
    | false => rw [parts_cons_letter c cs digit]; rfl
  | case4 c cs d ds both ih =>
    have run (c : Char) (cs : Text) (digit : c.isDigit = true) :
        ∀ e ∈ c :: cs.takeWhile Char.isDigit, e.isDigit = true :=
      List.forall_mem_cons.mpr ⟨digit, fun _ => List.mem_takeWhile_imp⟩
    rw [compareNatural, if_pos both, compareRuns_eq _ _ (run c cs both.1) (run d ds both.2), ih,
      parts_cons_digit c cs both.1, parts_cons_digit d ds both.2, List.compareLex_cons_cons]
    rfl
  | case5 c cs d ds apart ih =>
    rw [compareNatural, if_neg apart, ih]
    cases digit : c.isDigit with
    | true =>
      have letter : d.isDigit = false := by simpa [digit] using apart
      obtain ⟨side, decided⟩ := compare_digit_letter c d digit letter
      rw [parts_cons_digit c cs digit, parts_cons_letter d ds letter, List.compareLex_cons_cons,
        Part.compare, ← side]
      exact then_of_ne_eq decided _ _
    | false =>
      cases digit' : d.isDigit with
      | true =>
        obtain ⟨side, decided⟩ := compare_digit_letter d c digit' digit
        rw [Std.OrientedOrd.eq_swap, Std.OrientedOrd.eq_swap (a := '0')] at side
        rw [Std.OrientedOrd.eq_swap, ne_eq, Ordering.swap_eq_eq] at decided
        rw [parts_cons_letter c cs digit, parts_cons_digit d ds digit', List.compareLex_cons_cons,
          Part.compare, ← Ordering.swap_inj.mp side]
        exact then_of_ne_eq decided _ _
      | false =>
        rw [parts_cons_letter c cs digit, parts_cons_letter d ds digit', List.compareLex_cons_cons]
        rfl

end Text
-- A letter that is itself a zero would tie with every number.
def Part.Plain (part : Part) : Prop :=
  ∀ c, part = .letter c → c.isDigit = false

def Part.rank : Part → Char × Nat
  | .number n => ('0', n)
  | .letter c => (c, 0)

def compareRanks : Char × Nat → Char × Nat → Ordering :=
  compareLex (compareOn Prod.fst) (compareOn Prod.snd)

instance : Std.TransCmp compareRanks :=
  inferInstanceAs (Std.TransCmp (compareLex _ _))

theorem Part.compare_eq_compareRanks (a b : Part) (plainA : a.Plain) (plainB : b.Plain) :
    a.compare b = compareRanks a.rank b.rank := by
  have apart (c : Char) (letter : c.isDigit = false) : Ord.compare '0' c ≠ .eq := by
    intro same
    rw [← Std.LawfulEqOrd.eq_of_compare same] at letter
    exact absurd letter (by decide)
  cases a with
  | number m =>
    cases b with
    | number n => simp [Part.compare, compareRanks, compareLex, compareOn, Part.rank, Ordering.then]
    | letter c =>
      have := apart c (plainB c rfl)
      simp only [Part.compare, compareRanks, compareLex, compareOn, Part.rank]
      cases first : Ord.compare '0' c <;> simp_all [Ordering.then]
  | letter c =>
    cases b with
    | number n =>
      have := apart c (plainA c rfl)
      rw [Std.OrientedOrd.eq_swap] at this
      simp only [Part.compare, compareRanks, compareLex, compareOn, Part.rank]
      cases first : Ord.compare c '0' <;> simp_all [Ordering.then]
    | letter d =>
      simp only [Part.compare, compareRanks, compareLex, compareOn, Part.rank]
      cases first : Ord.compare c d <;> simp [Ordering.then]

theorem Text.plain_of_mem_partsBehind (run : Option Nat) (cs : Text) :
    ∀ part ∈ partsBehind run cs, part.Plain := by
  induction cs generalizing run with
  | nil => cases run <;> simp [partsBehind, Part.Plain]
  | cons c cs ih =>
    cases run <;> by_cases digit : c.isDigit <;>
      simp only [partsBehind, digit, if_true, Bool.false_eq_true, if_false, List.forall_mem_cons]
    · exact ih _
    · refine ⟨?_, ih none⟩
      rintro d ⟨⟩
      simpa using digit
    · exact ih _
    · refine ⟨by simp [Part.Plain], ?_, ih none⟩
      rintro d ⟨⟩
      simpa using digit

theorem Part.compareLex_eq_compareLex_rank (as bs : List Part)
    (plainA : ∀ part ∈ as, part.Plain) (plainB : ∀ part ∈ bs, part.Plain) :
    List.compareLex Part.compare as bs =
      List.compareLex compareRanks (as.map Part.rank) (bs.map Part.rank) := by
  induction as generalizing bs with
  | nil => cases bs <;> rfl
  | cons a as ih =>
    cases bs with
    | nil => rfl
    | cons b bs =>
      rw [List.forall_mem_cons] at plainA plainB
      simp only [List.map_cons, List.compareLex_cons_cons,
        a.compare_eq_compareRanks b plainA.1 plainB.1, ih bs plainA.2 plainB.2]

theorem Text.compareNatural_eq_compareRanks (a b : Text) :
    a.compareNatural b =
      List.compareLex compareRanks (a.parts.map Part.rank) (b.parts.map Part.rank) := by
  rw [compareNatural_eq]
  exact Part.compareLex_eq_compareLex_rank _ _ (plain_of_mem_partsBehind none a)
    (plain_of_mem_partsBehind none b)

instance : Std.TransCmp Text.compareNatural where
  eq_swap := by
    intro a b
    simp only [Text.compareNatural_eq_compareRanks]
    exact Std.OrientedCmp.eq_swap
  isLE_trans := by
    intro a b c
    simp only [Text.compareNatural_eq_compareRanks]
    exact Std.TransCmp.isLE_trans

instance : Std.TransCmp Text.compare :=
  inferInstanceAs (Std.TransCmp (List.compareLex Ord.compare))

instance : Std.LawfulEqCmp Text.compare :=
  inferInstanceAs (Std.LawfulEqCmp (List.compareLex Ord.compare))

end TaskQuery
