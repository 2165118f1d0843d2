import TaskQuery.Text.Letter

set_option autoImplicit false

namespace TaskQuery

theorem of_ascii_codes (p : Char → Prop) (each : ∀ n, n < 128 → p (Char.ofNat n)) (c : Char)
    (ascii : isAscii c = true) : p c := by
  have small : c.toNat < 128 := by simpa [isAscii] using ascii
  have holds := each c.toNat small
  rwa [Char.ofNat_toNat] at holds

theorem toLower_of_not_ascii (c : Char) (wide : isAscii c = false) : c.toLower = c := by
  have large : 128 ≤ c.toNat := by simpa [isAscii] using wide
  unfold Char.toLower
  rw [dif_neg]
  intro capital
  have upper : c.toNat ≤ 90 := capital.2
  omega

theorem isDigit_toLower (c : Char) : c.toLower.isDigit = c.isDigit := by
  cases ascii : isAscii c with
  | true => exact of_ascii_codes (fun c => c.toLower.isDigit = c.isDigit) (by decide) c ascii
  | false => rw [toLower_of_not_ascii c ascii]

theorem isAlpha_of_toLower_ne (c : Char) (changed : c.toLower ≠ c) :
    c.isAlpha = true ∧ c.toLower.isAlpha = true := by
  cases ascii : isAscii c with
  | true =>
    exact of_ascii_codes
      (fun c => c.toLower ≠ c → c.isAlpha = true ∧ c.toLower.isAlpha = true) (by decide) c ascii
      changed
  | false => exact absurd (toLower_of_not_ascii c ascii) changed

theorem toLower_eq_sign (c sign : Char) (unlettered : sign.isAlpha = false) :
    c.toLower = sign ↔ c = sign := by
  by_cases same : c.toLower = c
  · rw [same]
  · obtain ⟨letter, small⟩ := isAlpha_of_toLower_ne c same
    constructor
    · intro image
      rw [image, unlettered] at small
      cases small
    · intro image
      rw [image, unlettered] at letter
      cases letter

theorem toLower_eq_space (c : Char) : c.toLower = ' ' ↔ c = ' ' :=
  toLower_eq_sign c ' ' (by decide)

def CaseRun.Lands (run : CaseRun) : Prop :=
  (0 ≤ run.first + run.shift ∧ run.last + run.shift < 0xD800) ∨
    (0xE000 ≤ run.first + run.shift ∧ run.last + run.shift < 0x110000)

instance (run : CaseRun) : Decidable run.Lands :=
  inferInstanceAs (Decidable (_ ∨ _))

theorem toNat_ofNat (n : Nat) (valid : n < 0xD800 ∨ 0xE000 ≤ n ∧ n < 0x110000) :
    (Char.ofNat n).toNat = n := by
  have scalar : n.isValidChar := by
    rcases valid with low | high
    · exact .inl low
    · exact .inr ⟨by omega, high.2⟩
  rw [Char.ofNat, dif_pos scalar]
  rfl

theorem CaseRun.toNat_image (runs : List CaseRun) (lands : ∀ run ∈ runs, run.Lands) (c : Char) :
    image runs c = c ∨ ∃ run ∈ runs, run.first ≤ c.toNat ∧ c.toNat ≤ run.last ∧
      ((image runs c).toNat : Int) = c.toNat + run.shift := by
  unfold image
  split
  next run found =>
    right
    have inside := List.find?_some found
    simp only [CaseRun.has, Bool.and_eq_true, decide_eq_true_eq] at inside
    have member := List.mem_of_find?_eq_some found
    have target := lands run member
    unfold Lands at target
    refine ⟨run, member, inside.1.1, inside.1.2, ?_⟩
    rw [toNat_ofNat _ (by omega)]
    omega
  next => exact .inl rfl

-- Only the Kelvin sign has its small letter in ASCII.
theorem lowerRuns_lands_wide : ∀ run ∈ lowerRuns, run.Lands ∧
    ((run.first = 0x212A ∧ run.last = 0x212A) ∨ 128 ≤ run.first + run.shift) := by
  decide +kernel

-- Only the long s folds into ASCII, and nothing folds into the Kelvin sign.
theorem foldRuns_lands_wide : ∀ run ∈ foldRuns, run.Lands ∧
    ((run.first = 0x17F ∧ run.last = 0x17F) ∨ 128 ≤ run.first + run.shift ∧
      (run.last + run.shift < 0x212A ∨ 0x212A < run.first + run.shift)) := by
  decide +kernel

theorem isAscii_eq_false (c : Char) : isAscii c = false ↔ 128 ≤ c.toNat := by
  simp [isAscii]

theorem image_lowerRuns_wide (c : Char) (wide : 128 ≤ c.toNat) (kelvin : c.toNat ≠ 0x212A) :
    128 ≤ (CaseRun.image lowerRuns c).toNat := by
  have lands : ∀ run ∈ lowerRuns, run.Lands := fun run member =>
    (lowerRuns_lands_wide run member).1
  rcases CaseRun.toNat_image lowerRuns lands c with same | ⟨run, member, ge, le, image⟩
  · rwa [same]
  · have target := (lowerRuns_lands_wide run member).2
    omega

theorem image_foldRuns_wide (c : Char) (wide : 128 ≤ c.toNat) (kelvin : c.toNat ≠ 0x212A)
    (long : c.toNat ≠ 0x17F) :
    128 ≤ (CaseRun.image foldRuns c).toNat ∧ (CaseRun.image foldRuns c).toNat ≠ 0x212A := by
  have lands : ∀ run ∈ foldRuns, run.Lands := fun run member =>
    (foldRuns_lands_wide run member).1
  rcases CaseRun.toNat_image foldRuns lands c with same | ⟨run, member, ge, le, image⟩
  · rw [same]
    exact ⟨wide, kelvin⟩
  · have target := (foldRuns_lands_wide run member).2
    omega

theorem foldCase_wide (c : Char) (wide : isAscii c = false) (kelvin : c ≠ '\u212A')
    (long : c ≠ '\u017F') : isAscii (foldCase c) = false := by
  have large := (isAscii_eq_false c).mp wide
  have notKelvin : c.toNat ≠ 0x212A := fun same => kelvin (Char.toNat_inj.mp same)
  have notLong : c.toNat ≠ 0x17F := fun same => long (Char.toNat_inj.mp same)
  obtain ⟨folded, folded_kelvin⟩ := image_foldRuns_wide c large notKelvin notLong
  unfold foldCase
  rw [if_neg (by simp [wide])]
  split
  next => exact wide
  next =>
    unfold simpleLower
    rw [if_neg (by simpa [isAscii] using folded), isAscii_eq_false]
    exact image_lowerRuns_wide _ folded folded_kelvin

theorem toLower_ne_of_not_ascii (c letter : Char) (wide : isAscii c = false)
    (ascii : isAscii letter = true) : c.toLower ≠ letter := by
  rw [toLower_of_not_ascii c wide]
  intro same
  rw [same, ascii] at wide
  cases wide

theorem foldCase_eq_iff (c letter : Char) (ascii : isAscii letter = true) :
    foldCase c = letter ↔ c.toLower = letter ∨
      (c = '\u017F' ∧ letter = 's') ∨ (c = '\u212A' ∧ letter = 'k') := by
  by_cases long : c = '\u017F'
  · have folded : foldCase '\u017F' = 's' := by decide
    have lower := toLower_ne_of_not_ascii '\u017F' letter (by decide) ascii
    have apart : '\u017F' ≠ '\u212A' := by decide
    simp only [long, folded, lower, apart, true_and, false_and, false_or, or_false]
    exact eq_comm
  · by_cases kelvin : c = '\u212A'
    · have folded : foldCase '\u212A' = 'k' := by decide
      have lower := toLower_ne_of_not_ascii '\u212A' letter (by decide) ascii
      have apart : '\u212A' ≠ '\u017F' := by decide
      simp only [kelvin, folded, lower, apart, true_and, false_and, false_or]
      exact eq_comm
    · simp only [long, kelvin, false_and, or_false]
      cases narrow : isAscii c with
      | true => rw [foldCase, if_pos narrow]
      | false =>
        have lower := toLower_ne_of_not_ascii c letter narrow ascii
        have folded := foldCase_wide c narrow kelvin long
        simp only [lower, iff_false]
        intro same
        rw [same, ascii] at folded
        cases folded

theorem foldCase_eq_sign (c sign : Char) (ascii : isAscii sign = true)
    (unlettered : sign.isAlpha = false) : foldCase c = sign ↔ c = sign := by
  have s : sign ≠ 's' := by
    rintro rfl
    cases unlettered
  have k : sign ≠ 'k' := by
    rintro rfl
    cases unlettered
  rw [foldCase_eq_iff c sign ascii, toLower_eq_sign c sign unlettered]
  simp [s, k]

def PlainLetter (c : Char) : Prop :=
  isAscii c = true ∧ foldCase c = c ∧ c ≠ 's' ∧ c ≠ 'k'

instance (c : Char) : Decidable (PlainLetter c) :=
  inferInstanceAs (Decidable (_ ∧ _))

def Text.Plain (word : Text) : Prop :=
  ∀ c ∈ word, PlainLetter c

instance (word : Text) : Decidable word.Plain :=
  List.decidableBAll PlainLetter word

theorem PlainLetter.foldCase_eq_iff {letter : Char} (plain : PlainLetter letter) (c : Char) :
    foldCase c = foldCase letter ↔ c.toLower = letter := by
  obtain ⟨ascii, folded, s, k⟩ := plain
  rw [folded, TaskQuery.foldCase_eq_iff c letter ascii]
  simp [s, k]

theorem Text.foldCase_spelling (word spelling : Text) (plain : word.Plain) :
    spelling.map foldCase = word.map foldCase ↔ spelling.asciiLower = word := by
  induction word generalizing spelling with
  | nil => simp [asciiLower]
  | cons letter word ih =>
    simp only [Plain, List.forall_mem_cons] at plain
    cases spelling with
    | nil => simp [asciiLower]
    | cons c spelling =>
      have tail := ih spelling plain.2
      simp only [asciiLower] at tail
      simp only [asciiLower, List.map_cons, List.cons.injEq, plain.1.foldCase_eq_iff, tail]

theorem Text.stripBy?_concat (image : Char → Char) (first second cs : Text) :
    stripBy? image (first ++ second) cs =
      (stripBy? image first cs).bind (stripBy? image second) := by
  induction first generalizing cs with
  | nil => rfl
  | cons w first ih =>
    cases cs with
    | nil => rfl
    | cons c cs =>
      simp only [List.cons_append, stripBy?]
      split
      next => exact ih cs
      next => rfl

theorem Text.stripCaseless?_eq_some (word cs rest : Text) (plain : word.Plain) :
    word.stripCaseless? cs = some rest ↔
      ∃ spelling, cs = spelling ++ rest ∧ spelling.asciiLower = word := by
  simp only [stripCaseless?, stripBy?_eq_some, foldCase_spelling word _ plain]

end TaskQuery
