import TaskQuery.Proofs.Text.Letter
import TaskQuery.Proofs.Text.Natural

set_option autoImplicit false

namespace TaskQuery

namespace Text

/-- A text without the zeros in front of its numbers, where `inside` says that a number has begun
just before the text. Of a number that is all zeros the last one is left. -/
def unpaddedBehind : (inside : Bool) → Text → Text
  | _, [] => []
  | inside, c :: cs =>
    if inside = false ∧ c = '0' ∧ cs.head?.any Char.isDigit then unpaddedBehind false cs
    else c :: unpaddedBehind c.isDigit cs

def unpadded (cs : Text) : Text :=
  unpaddedBehind false cs

structure Run (front run back : Text) : Prop where
  number : run.isNumber = true
  opens : ∀ c ∈ front.getLast?, c.isDigit = false
  closes : ∀ c ∈ back.head?, c.isDigit = false

theorem isAscii_of_isDigit (c : Char) (digit : c.isDigit = true) : isAscii c = true := by
  simp only [Char.isDigit, Bool.and_eq_true, decide_eq_true_eq] at digit
  have small : c.toNat ≤ 57 := digit.2
  simp only [isAscii, decide_eq_true_eq]
  omega

theorem digitChar_digitValue (c : Char) (digit : c.isDigit = true) :
    digitValue c < 10 ∧ (digitValue c).digitChar = c :=
  of_ascii_codes (fun c => c.isDigit = true → digitValue c < 10 ∧ (digitValue c).digitChar = c)
    (by decide) c (isAscii_of_isDigit c digit) digit

theorem digitValue_eq_zero (c : Char) (digit : c.isDigit = true) : digitValue c = 0 ↔ c = '0' := by
  constructor
  · intro zero
    rw [← (digitChar_digitValue c digit).2, zero]
    rfl
  · rintro rfl
    rfl

theorem ofNat_digitValue (c : Char) (digit : c.isDigit = true) : ofNat (digitValue c) = [c] := by
  obtain ⟨small, char⟩ := digitChar_digitValue c digit
  rw [ofNat, Nat.toDigits_of_lt_base small, char]

theorem ofNat_concat (n : Nat) (positive : 0 < n) (c : Char) (digit : c.isDigit = true) :
    ofNat (10 * n + digitValue c) = ofNat n ++ [c] := by
  have small := (digitChar_digitValue c digit).1
  rw [← ofNat_digitValue c digit]
  exact (Nat.toDigits_append_toDigits (by decide) positive small).symm

theorem partsBehind_zero (cs : Text) (digit : cs.head?.any Char.isDigit = true) :
    partsBehind none ('0' :: cs) = partsBehind none cs := by
  cases cs with
  | nil => cases digit
  | cons c cs =>
    have first : c.isDigit = true := by simpa using digit
    simp [partsBehind, first, digitValue]

theorem partsBehind_unpadded (cs : Text) :
    partsBehind none (unpaddedBehind false cs) = partsBehind none cs ∧
      ∀ n, partsBehind (some n) (unpaddedBehind true cs) = partsBehind (some n) cs := by
  induction cs with
  | nil => exact ⟨rfl, fun _ => rfl⟩
  | cons c cs ih =>
    constructor
    · rw [unpaddedBehind]
      split
      next dropped =>
        obtain ⟨_, rfl, digit⟩ := dropped
        rw [ih.1, partsBehind_zero cs digit]
      next => cases digit : c.isDigit <;> simp [partsBehind, digit, ih]
    · intro n
      cases digit : c.isDigit <;> simp [unpaddedBehind, partsBehind, digit, ih]

theorem parts_unpadded (cs : Text) : cs.unpadded.parts = cs.parts :=
  (partsBehind_unpadded cs).1

end Text

def Part.text : Part → Text
  | .number n => Text.ofNat n
  | .letter c => [c]

namespace Text

-- A run that is worth nothing so far may still be all zeros, of which one is kept.
theorem flatMap_partsBehind (cs : Text) :
    (partsBehind none cs).flatMap Part.text = unpaddedBehind false cs ∧
      ∀ n, (partsBehind (some n) cs).flatMap Part.text =
        if n = 0 then unpaddedBehind false ('0' :: cs) else ofNat n ++ unpaddedBehind true cs := by
  induction cs with
  | nil =>
    refine ⟨rfl, fun n => ?_⟩
    split
    next zero => simp [zero, partsBehind, Part.text, unpaddedBehind, ofNat]
    next => simp [partsBehind, Part.text, unpaddedBehind]
  | cons c cs ih =>
    obtain ⟨outside, inside⟩ := ih
    cases digit : c.isDigit with
    | false =>
      have letter : c ≠ '0' := by
        rintro rfl
        cases digit
      refine ⟨by simp [partsBehind, Part.text, unpaddedBehind, digit, letter, outside], ?_⟩
      intro n
      split
      next zero =>
        simp [zero, partsBehind, Part.text, unpaddedBehind, digit, outside, ofNat]
      next => simp [partsBehind, Part.text, unpaddedBehind, digit, outside]
    | true =>
      have value := digitValue_eq_zero c digit
      have begun : (partsBehind (some (digitValue c)) cs).flatMap Part.text =
          unpaddedBehind false (c :: cs) := by
        rw [inside]
        split
        next zero => rw [value.mp zero]
        next positive =>
          have nonzero : c ≠ '0' := fun zero => positive (value.mpr zero)
          simp [unpaddedBehind, digit, nonzero, ofNat_digitValue c digit]
      refine ⟨by simpa [partsBehind, digit] using begun, ?_⟩
      intro n
      split
      next zero =>
        simp [zero, partsBehind, digit, begun, unpaddedBehind.eq_2 false '0']
      next nonzero =>
        have longer := inside (10 * n + digitValue c)
        rw [if_neg (by omega), ofNat_concat n (Nat.pos_of_ne_zero nonzero) c digit] at longer
        simp [partsBehind, digit, longer, unpaddedBehind]

theorem unpadded_eq_flatMap (cs : Text) : cs.unpadded = cs.parts.flatMap Part.text :=
  (flatMap_partsBehind cs).1.symm

theorem unpadded_eq_iff (a b : Text) : a.unpadded = b.unpadded ↔ a.parts = b.parts := by
  constructor
  · intro same
    rw [← a.parts_unpadded, same, b.parts_unpadded]
  · intro same
    rw [a.unpadded_eq_flatMap, same, ← b.unpadded_eq_flatMap]

theorem partsBehind_letter (run? : Option Nat) (front back : Text) (c : Char)
    (letter : c.isDigit = false) :
    partsBehind run? (front ++ c :: back) =
      partsBehind run? (front ++ [c]) ++ partsBehind none back := by
  induction front generalizing run? with
  | nil => cases run? <;> simp [partsBehind, letter]
  | cons d front ih =>
    cases run? <;> cases digit : d.isDigit <;> simp [partsBehind, digit, ih]

theorem parts_append (front back : Text) (opens : ∀ c ∈ front.getLast?, c.isDigit = false) :
    (front ++ back).parts = front.parts ++ back.parts := by
  rcases List.eq_nil_or_concat front with rfl | ⟨rest, c, rfl⟩
  · rfl
  · have letter : c.isDigit = false := opens c (by simp)
    rw [List.concat_eq_append, List.append_assoc]
    exact partsBehind_letter none rest back c letter

section

variable {front run back : Text} (whole : Run front run back)

include whole

theorem Run.parts :
    (front ++ run ++ back).parts = front.parts ++ .number run.value :: back.parts := by
  have number := whole.number
  simp only [isNumber, Bool.and_eq_true, decide_eq_true_eq, List.all_eq_true] at number
  rw [List.append_assoc, parts_append front (run ++ back) whole.opens]
  cases run with
  | nil => exact absurd rfl number.1
  | cons c run =>
    rw [List.forall_mem_cons] at number
    simp [Text.parts, partsBehind, number.2.1, value, digitValue, Nat.ofDigitChars_cons,
      partsBehind_digits _ run back number.2.2 whole.closes]

end

end Text

theorem Part.compare_self (part : Part) : part.compare part = .eq := by
  cases part <;> simp [Part.compare]

theorem Part.compare_eq_eq (a b : Part) (plainA : a.Plain) (plainB : b.Plain) :
    a.compare b = .eq ↔ a = b := by
  have apart (c : Char) (letter : c.isDigit = false) : '0' ≠ c := by
    rintro rfl
    cases letter
  cases a with
  | number m =>
    cases b with
    | number n => simp [Part.compare]
    | letter c => simp [Part.compare, apart c (plainB c rfl)]
  | letter c =>
    cases b with
    | number n => simp [Part.compare, (apart c (plainA c rfl)).symm]
    | letter d => simp [Part.compare]

theorem Part.compareLex_eq_eq (as bs : List Part) (plainA : ∀ part ∈ as, part.Plain)
    (plainB : ∀ part ∈ bs, part.Plain) : List.compareLex Part.compare as bs = .eq ↔ as = bs := by
  induction as generalizing bs with
  | nil => cases bs <;> simp [List.compareLex_nil_nil, List.compareLex_nil_cons]
  | cons a as ih =>
    cases bs with
    | nil => simp [List.compareLex_cons_nil]
    | cons b bs =>
      rw [List.forall_mem_cons] at plainA plainB
      rw [List.compareLex_cons_cons, Ordering.then_eq_eq, a.compare_eq_eq b plainA.1 plainB.1,
        ih bs plainA.2 plainB.2, List.cons.injEq]

theorem Part.compareLex_append (front as bs : List Part) :
    List.compareLex Part.compare (front ++ as) (front ++ bs) =
      List.compareLex Part.compare as bs := by
  induction front with
  | nil => rfl
  | cons part front ih =>
    rw [List.cons_append, List.cons_append, List.compareLex_cons_cons, part.compare_self, ih]
    rfl

namespace Text

theorem compareNatural_eq_eq (a b : Text) : a.compareNatural b = .eq ↔ a.unpadded = b.unpadded := by
  rw [unpadded_eq_iff, compareNatural_eq]
  exact Part.compareLex_eq_eq _ _ (plain_of_mem_partsBehind none a) (plain_of_mem_partsBehind none b)

theorem Run.compareNatural {front run back front' run' back' : Text} (whole : Run front run back)
    (whole' : Run front' run' back') (agree : front.unpadded = front'.unpadded) :
    (front ++ run ++ back).compareNatural (front' ++ run' ++ back') =
      (Ord.compare run.value run'.value).then (back.compareNatural back') := by
  rw [unpadded_eq_iff] at agree
  rw [Text.compareNatural_eq, back.compareNatural_eq, whole.parts, whole'.parts, agree,
    Part.compareLex_append, List.compareLex_cons_cons]
  rfl

/-- The natural order is a total preorder. Texts tie in it that differ only in zeros in front of
their numbers, and the first numbers with different values decide. -/
theorem natural_order :
    (∀ a : Text, a.compareNatural a = .eq) ∧
      (∀ a b : Text, a.compareNatural b = (b.compareNatural a).swap) ∧
      (∀ a b c : Text, a.compareNatural b = .lt → b.compareNatural c = .lt →
        a.compareNatural c = .lt) ∧
      (∀ a b c : Text, a.compareNatural b = .eq → b.compareNatural c = .eq →
        a.compareNatural c = .eq) ∧
      (∀ a b c : Text, (a.compareNatural b).isLE → (b.compareNatural c).isLE →
        (a.compareNatural c).isLE) ∧
      (∀ a b : Text, a.compareNatural b = .eq ↔ a.unpadded = b.unpadded) ∧
      ∀ front run back front' run' back' : Text, Run front run back → Run front' run' back' →
        front.unpadded = front'.unpadded → run.value ≠ run'.value →
        (front ++ run ++ back).compareNatural (front' ++ run' ++ back') =
          Ord.compare run.value run'.value := by
  refine ⟨fun a => Std.ReflCmp.compare_self, fun a b => Std.OrientedCmp.eq_swap,
    fun a b c => Std.TransCmp.lt_trans, fun a b c => Std.TransCmp.eq_trans,
    fun a b c => Std.TransCmp.isLE_trans, compareNatural_eq_eq, ?_⟩
  intro front run back front' run' back' whole whole' agree differ
  rw [whole.compareNatural whole' agree]
  cases order : Ord.compare run.value run'.value with
  | lt => rfl
  | gt => rfl
  | eq => exact absurd (Nat.compare_eq_eq.mp order) differ

end Text

theorem pages_in_natural_order :
    Text.Run "chapter 07 page " "10" [] ∧ Text.Run "chapter 7 page " "9" [] ∧
      Text.unpadded "chapter 07 page " = Text.unpadded "chapter 7 page " ∧
      Text.value "10" ≠ Text.value "9" ∧
      Text.compareNatural "chapter 07 page 10" "chapter 7 page 9" = .gt := by
  have whole : Text.Run "chapter 07 page " "10" [] := by
    constructor <;> simp [Text.ofString_eq, Text.isNumber]
  have whole' : Text.Run "chapter 7 page " "9" [] := by
    constructor <;> simp [Text.ofString_eq, Text.isNumber]
  have agree : Text.unpadded "chapter 07 page " = Text.unpadded "chapter 7 page " := by
    simp [Text.ofString_eq, Text.unpadded, Text.unpaddedBehind]
  have differ : Text.value "10" ≠ Text.value "9" := by
    simp [Text.ofString_eq, Text.value, Nat.ofDigitChars]
  obtain ⟨_, _, _, _, _, _, numbers⟩ := Text.natural_order
  have decided := numbers _ _ _ _ _ _ whole whole' agree differ
  have values : Ord.compare (Text.value "10") (Text.value "9") = .gt := by
    rw [Nat.compare_eq_gt]
    simp [Text.ofString_eq, Text.value, Nat.ofDigitChars]
  rw [values] at decided
  refine ⟨whole, whole', agree, differ, ?_⟩
  simpa [Text.ofString_eq] using decided

end TaskQuery
