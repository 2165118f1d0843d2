import TaskQuery.Proofs.Text.Lines
import TaskQuery.Proofs.Text.Lower
import TaskQuery.Text.Digit

set_option autoImplicit false

namespace TaskQuery

theorem apply_toLower {β : Type} (test : Char → β) (value : β)
    (letters : ∀ c, c.isAlpha = true → test c = value) (c : Char) : test c.toLower = test c := by
  by_cases same : c.toLower = c
  · rw [same]
  · obtain ⟨letter, small⟩ := isAlpha_of_toLower_ne c same
    rw [letters c letter, letters c.toLower small]

theorem codes_of_isAlpha (c : Char) (letter : c.isAlpha = true) :
    65 ≤ c.toNat ∧ c.toNat ≤ 90 ∨ 97 ≤ c.toNat ∧ c.toNat ≤ 122 := by
  rcases Bool.or_eq_true_iff.mp letter with capital | small
  · exact .inl (of_decide_eq_true capital)
  · have bounds := Bool.and_eq_true_iff.mp small
    exact .inr ⟨of_decide_eq_true bounds.1, of_decide_eq_true bounds.2⟩

theorem isAscii_of_isAlpha (c : Char) (letter : c.isAlpha = true) : isAscii c = true := by
  have codes := codes_of_isAlpha c letter
  simp only [isAscii, decide_eq_true_eq]
  omega

theorem toLower_toLower (c : Char) : c.toLower.toLower = c.toLower := by
  cases ascii : isAscii c with
  | true => exact of_ascii_codes (fun c => c.toLower.toLower = c.toLower) (by decide) c ascii
  | false => rw [toLower_of_not_ascii c ascii, toLower_of_not_ascii c ascii]

def CodeRanges.unlettered (ranges : CodeRanges) : Bool :=
  ranges.all fun (first, last) => last < 65 || (90 < first && last < 97) || 122 < first

theorem CodeRanges.has_toLower (ranges : CodeRanges) (unlettered : ranges.unlettered = true)
    (c : Char) : ranges.has c.toLower = ranges.has c := by
  apply apply_toLower ranges.has false
  intro c letter
  have codes := codes_of_isAlpha c letter
  rw [← Bool.not_eq_true, CodeRanges.has_iff]
  rintro ⟨range, member, ge, le⟩
  have apart := List.all_eq_true.mp unlettered range member
  simp only [Bool.or_eq_true, Bool.and_eq_true, decide_eq_true_eq] at apart
  omega

theorem isCaseIgnorable_toLower (c : Char) : isCaseIgnorable c.toLower = isCaseIgnorable c := by
  apply CodeRanges.has_toLower
  set_option maxRecDepth 4000 in
  decide

theorem isDecimalDigit_toLower (c : Char) : isDecimalDigit c.toLower = isDecimalDigit c := by
  apply CodeRanges.has_toLower
  decide

theorem isCased_toLower (c : Char) : isCased c.toLower = isCased c := by
  apply apply_toLower isCased true
  intro c letter
  rw [isCased, if_pos (isAscii_of_isAlpha c letter), letter]

theorem foldCase_toLower (c : Char) : foldCase c.toLower = foldCase c := by
  by_cases same : c.toLower = c
  · rw [same]
  · obtain ⟨letter, small⟩ := isAlpha_of_toLower_ne c same
    rw [foldCase, if_pos (isAscii_of_isAlpha _ small), foldCase,
      if_pos (isAscii_of_isAlpha c letter), toLower_toLower]

theorem lowerOf_toLower (c : Char) : lowerOf c.toLower = lowerOf c := by
  by_cases same : c.toLower = c
  · rw [same]
  · obtain ⟨letter, small⟩ := isAlpha_of_toLower_ne c same
    have plain (c : Char) (letter : c.isAlpha = true) : lowerOf c = [c.toLower] := by
      have ascii := isAscii_of_isAlpha c letter
      have dotted : c ≠ '\u0130' := by
        rintro rfl
        cases ascii
      simp [lowerOf, dotted, simpleLower, ascii]
    rw [plain c letter, plain _ small, toLower_toLower]

namespace Text

@[simp] theorem asciiLower_asciiLower (cs : Text) : asciiLower (asciiLower cs) = asciiLower cs := by
  rw [asciiLower, asciiLower, List.map_map]
  exact List.map_congr_left fun c _ => toLower_toLower c

@[simp] theorem asciiLower_cons (c : Char) (cs : Text) :
    asciiLower (c :: cs) = c.toLower :: asciiLower cs :=
  rfl

@[simp] theorem asciiLower_eq_nil (cs : Text) : asciiLower cs = [] ↔ cs = [] :=
  List.map_eq_nil_iff

section

variable (test : Char → Bool) (blind : ∀ c, test c.toLower = test c)
include blind

theorem dropWhile_asciiLower (cs : Text) :
    (asciiLower cs).dropWhile test = asciiLower (cs.dropWhile test) := by
  have same : test ∘ Char.toLower = test := funext blind
  rw [asciiLower, List.dropWhile_map, same]
  rfl

theorem takeWhile_asciiLower (cs : Text) :
    (asciiLower cs).takeWhile test = asciiLower (cs.takeWhile test) := by
  have same : test ∘ Char.toLower = test := funext blind
  rw [asciiLower, List.takeWhile_map, same]
  rfl

theorem all_asciiLower (cs : Text) : (asciiLower cs).all test = cs.all test := by
  have same : test ∘ Char.toLower = test := funext blind
  rw [asciiLower, List.all_map, same]

theorem pieces_asciiLower (cs : Text) :
    pieces test (asciiLower cs) = (pieces test cs).map asciiLower := by
  induction cs with
  | nil => rfl
  | cons c cs ih =>
    obtain ⟨first, rest, shape⟩ := List.exists_cons_of_ne_nil (pieces_ne_nil test cs)
    by_cases ends : test c = true <;> simp [pieces, blind, ih, ends, shape]

end

theorem lines_asciiLower (cs : Text) : lines (asciiLower cs) = (lines cs).map asciiLower := by
  apply pieces_asciiLower
  intro c
  rw [Bool.eq_iff_iff, beq_iff_eq, beq_iff_eq, toLower_eq_sign c '\n' (by decide)]

theorem trim_asciiLower (cs : Text) : trim (asciiLower cs) = asciiLower (trim cs) := by
  have front (cs : Text) : trimStart (asciiLower cs) = asciiLower (trimStart cs) :=
    dropWhile_asciiLower isBlank isBlank_toLower cs
  have back (cs : Text) : (asciiLower cs).reverse = asciiLower cs.reverse := by
    simp [asciiLower]
  simp only [trim, front, back]

theorem beginsCased_asciiLower (cs : Text) : beginsCased (asciiLower cs) = beginsCased cs := by
  unfold beginsCased
  rw [dropWhile_asciiLower isCaseIgnorable isCaseIgnorable_toLower]
  cases cs.dropWhile isCaseIgnorable with
  | nil => rfl
  | cons c cs => simp [isCased_toLower]

theorem lowerBehind_asciiLower (before cs : Text) :
    lowerBehind (asciiLower before) (asciiLower cs) = lowerBehind before cs := by
  induction cs generalizing before with
  | nil => rfl
  | cons c cs ih =>
    have sigma := toLower_eq_sign c '\u03A3' (by decide)
    have rest := ih (c :: before)
    rw [asciiLower_cons] at rest
    simp only [asciiLower_cons, lowerBehind, sigma, lowerOf_toLower, rest, lowerSigma,
      beginsCased_asciiLower]

@[simp] theorem lower_asciiLower (cs : Text) : lower (asciiLower cs) = lower cs :=
  lowerBehind_asciiLower [] cs

theorem stripBy?_asciiLower (image : Char → Char) (blind : ∀ c, image c.toLower = image c)
    (word cs : Text) :
    stripBy? image word (asciiLower cs) = (stripBy? image word cs).map asciiLower := by
  induction word generalizing cs with
  | nil => rfl
  | cons w word ih =>
    cases cs with
    | nil => rfl
    | cons c cs =>
      by_cases same : image w = image c <;> simp [stripBy?, blind, same, ih]

theorem stripCaseless?_asciiLower (word cs : Text) :
    word.stripCaseless? (asciiLower cs) = (word.stripCaseless? cs).map asciiLower :=
  stripBy?_asciiLower foldCase foldCase_toLower word cs

def Unlettered (cs : Text) : Prop :=
  ∀ c ∈ cs, c.isAlpha = false

theorem Unlettered.eq_of_asciiLower {cs other : Text} (unlettered : Unlettered cs)
    (same : asciiLower other = cs) : other = cs := by
  subst same
  have kept : ∀ c ∈ other, c.toLower = c := by
    intro c member
    exact ((toLower_eq_sign c c.toLower (unlettered _ (List.mem_map_of_mem member))).mp rfl).symm
  exact ((List.map_congr_left kept).trans (List.map_id other)).symm

theorem Unlettered.asciiLower_eq {cs : Text} (unlettered : Unlettered cs) : asciiLower cs = cs := by
  have kept : ∀ c ∈ cs, c.toLower = c := fun c member =>
    (toLower_eq_sign c c (unlettered c member)).mpr rfl
  exact (List.map_congr_left kept).trans (List.map_id cs)

theorem Unlettered.append {front back : Text} (first : Unlettered front) (rest : Unlettered back) :
    Unlettered (front ++ back) := by
  intro c member
  rcases List.mem_append.mp member with left | right
  · exact first c left
  · exact rest c right

theorem unlettered_of_isDigit {digits : Text} (all : ∀ c ∈ digits, c.isDigit = true) :
    Unlettered digits := by
  intro c member
  have ascii : isAscii c = true := by
    have digit := all c member
    simp only [Char.isDigit, Bool.and_eq_true, decide_eq_true_eq] at digit
    have small : c.toNat ≤ 57 := digit.2
    simp only [isAscii, decide_eq_true_eq]
    omega
  exact of_ascii_codes (fun c => c.isDigit = true → c.isAlpha = false) (by decide) c ascii
    (all c member)

theorem unlettered_of_isNumber {digits : Text} (number : digits.isNumber = true) :
    Unlettered digits := by
  simp only [isNumber, Bool.and_eq_true, List.all_eq_true] at number
  exact unlettered_of_isDigit number.2

-- A reader of texts without letters finds the same in both spellings of a text, for if it finds
-- something in one of them, the two are one.
theorem read_asciiLower_of_unlettered {β : Type} (read : Text → Option β)
    (needs : ∀ cs found, read cs = some found → Unlettered cs) (cs : Text) :
    read (asciiLower cs) = read cs := by
  cases here : read cs with
  | some found => rw [(needs cs found here).asciiLower_eq, here]
  | none =>
    cases small : read (asciiLower cs) with
    | none => rfl
    | some found =>
      have same := (needs _ found small).eq_of_asciiLower rfl
      rw [← same, here] at small
      cases small

end Text
end TaskQuery
