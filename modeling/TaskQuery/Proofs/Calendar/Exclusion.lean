import Mathlib.Data.List.Chain
import TaskQuery.Proofs.Calendar.Spelling
import TaskQuery.Proofs.Text.Table

set_option autoImplicit false

namespace TaskQuery

inductive Text.Numeral : Text → Prop where
  | intro (sign gap digits : Text) (signed : sign = [] ∨ sign = ['-'] ∨ sign = ['+'])
    (blank : ∀ c ∈ gap, isAsciiBlank c = true) (nonempty : digits ≠ [])
    (all : ∀ c ∈ digits, c.isDigit = true) : Numeral (sign ++ gap ++ digits)

namespace Text

theorem number?_numeral (width : Nat) (cs rest : Text) (n : Nat)
    (found : cs.number? width = some (n, rest)) : ∃ number, Numeral number ∧ cs = number ++ rest := by
  obtain ⟨gap, digits, rfl, blank, nonempty, all, _⟩ := number?_eq_some width cs rest n found
  exact ⟨gap ++ digits, .intro [] gap digits (.inl rfl) blank nonempty all, rfl⟩

theorem year?_numeral (cs rest : Text) (year : Int) (found : cs.year? = some (year, rest)) :
    ∃ number, Numeral number ∧ cs = number ++ rest := by
  obtain ⟨sign, unsigned, n, rfl, read, signed⟩ := year?_eq_some cs rest year found
  obtain ⟨gap, digits, rfl, blank, nonempty, all, _⟩ := number?_eq_some 4 unsigned rest n read
  refine ⟨sign ++ gap ++ digits, .intro sign gap digits ?_ blank nonempty all, by simp⟩
  rcases signed with ⟨minus, _⟩ | ⟨none | plus, _⟩
  · exact .inr (.inl minus)
  · exact .inl none
  · exact .inr (.inr plus)

end Text

open Text

theorem DateOrder.numerals (separator : Char) (order : DateOrder) (cs : Text) (date : Date)
    (found : order.date? separator cs = some date) :
    ∃ first second third, Numeral first ∧ Numeral second ∧ Numeral third ∧
      cs = first ++ separator :: (second ++ separator :: third) := by
  have nothing {rest : Text} {result : Option Date}
      (ends : (if rest = [] then result else none) = some date) : rest = [] := by
    rw [Option.ite_none_right_eq_some] at ends
    exact ends.1
  cases order <;> simp only [date?, Option.bind_eq_bind, Option.bind_eq_some_iff] at found <;>
    obtain ⟨⟨_, _⟩, one, _, dash, ⟨_, _⟩, two, _, hyphen, ⟨_, rest⟩, three, ends⟩ := found <;>
    obtain rfl : rest = [] := nothing ends <;>
    rw [strip?_eq_some] at dash hyphen <;>
    subst dash hyphen <;>
    obtain ⟨second, middle, rfl⟩ := number?_numeral _ _ _ _ two
  case yearFirst =>
    obtain ⟨first, year, rfl⟩ := year?_numeral _ _ _ one
    obtain ⟨third, day, rfl⟩ := number?_numeral _ _ _ _ three
    exact ⟨first, second, third, year, middle, day, by simp⟩
  case dayFirst | monthFirst =>
    obtain ⟨first, opening, rfl⟩ := number?_numeral _ _ _ _ one
    obtain ⟨third, year, rfl⟩ := year?_numeral _ _ _ three
    exact ⟨first, second, third, opening, middle, year, by simp⟩

theorem separatedDate?_numerals (cs : Text) (date : Date) (found : separatedDate? cs = some date) :
    ∃ separator first second third, isDateSeparator separator = true ∧ Numeral first ∧
      Numeral second ∧ Numeral third ∧ cs = first ++ separator :: (second ++ separator :: third) := by
  simp only [separatedDate?, Option.bind_eq_bind, Option.bind_eq_some_iff] at found
  obtain ⟨separator, first, order⟩ := found
  have known := List.find?_some first
  obtain ⟨order, read⟩ : ∃ order : DateOrder, order.date? separator cs = some date := by
    split at order
    next => exact ⟨.yearFirst, order⟩
    next =>
      rcases Option.or_eq_some_iff.mp order with day | ⟨_, month⟩
      · exact ⟨.dayFirst, day⟩
      · exact ⟨.monthFirst, month⟩
  obtain ⟨one, two, three, numerals⟩ := order.numerals separator cs date read
  exact ⟨separator, one, two, three, known, numerals⟩

/-- Characters next to each other that begin no separator of two dates: a blank has only blanks and
digits behind it, and a dot no dot. -/
def Close (a b : Char) : Prop :=
  (isBlank a = true → isBlank b = true ∨ b.isDigit = true) ∧ (a = '.' → b ≠ '.')

theorem Close.of_digit {a b : Char} (digit : a.isDigit = true) : Close a b := by
  obtain ⟨visible, noDot⟩ := visible_of_isDigit a digit
  exact ⟨fun blank => absurd blank (by simp [visible]), fun dot => absurd dot noDot⟩

theorem Close.of_inside {a b : Char} (inside : isBlank b = true ∨ b.isDigit = true) :
    Close a b := by
  refine ⟨fun _ => inside, ?_⟩
  rintro _ rfl
  revert inside
  decide

theorem Text.Numeral.inside {gap digits : Text} (blank : ∀ c ∈ gap, isAsciiBlank c = true)
    (all : ∀ c ∈ digits, c.isDigit = true) :
    ∀ c ∈ gap ++ digits, isBlank c = true ∨ c.isDigit = true := by
  rw [List.forall_mem_append]
  exact ⟨fun c member => .inl (isBlank_of_isAsciiBlank c (blank c member)),
    fun c member => .inr (all c member)⟩

theorem isChain_close (cs : Text) (c : Char)
    (inside : ∀ d ∈ cs, isBlank d = true ∨ d.isDigit = true) : (c :: cs).IsChain Close := by
  induction cs generalizing c with
  | nil => exact List.isChain_singleton c
  | cons d cs ih =>
    rw [List.forall_mem_cons] at inside
    exact List.isChain_cons_cons.mpr ⟨Close.of_inside inside.1, ih d inside.2⟩

theorem Text.Numeral.chain {number rest : Text} (numeral : Numeral number)
    (behind : rest.IsChain Close) : (number ++ rest).IsChain Close := by
  obtain ⟨sign, gap, digits, signed, blank, nonempty, all⟩ := numeral
  have inside := Numeral.inside blank all
  have within : (sign ++ gap ++ digits).IsChain Close := by
    rw [List.append_assoc]
    rcases signed with rfl | rfl | rfl
    · exact (isChain_close _ ' ' inside).tail
    · exact isChain_close _ '-' inside
    · exact isChain_close _ '+' inside
  refine List.isChain_append.mpr ⟨within, behind, ?_⟩
  intro last ends next _
  rw [List.getLast?_append_of_ne_nil _ nonempty] at ends
  exact Close.of_digit (all last (List.mem_of_getLast? ends))

theorem Text.Numeral.chain_behind {separator : Char} {number rest : Text}
    (known : isDateSeparator separator = true) (numeral : Numeral number)
    (behind : rest.IsChain Close) : (separator :: (number ++ rest)).IsChain Close := by
  refine List.isChain_cons.mpr ⟨?_, numeral.chain behind⟩
  obtain ⟨sign, gap, digits, signed, blank, nonempty, all⟩ := numeral
  have inside := Numeral.inside blank all
  have visible := isBlank_of_isDateSeparator separator known
  intro next first
  have signClose (c : Char) (other : c ≠ '.') : Close separator c :=
    ⟨fun blank => absurd blank (by simp [visible]), fun _ => other⟩
  rcases signed with rfl | rfl | rfl
  · have front : (gap ++ digits).head? = some next := by
      cases shape : gap ++ digits with
      | nil => simp_all
      | cons c cs => simpa [shape] using first
    exact Close.of_inside (inside next (List.mem_of_head? front))
  · obtain rfl : '-' = next := by simpa using first
    exact signClose '-' (by decide)
  · obtain rfl : '+' = next := by simpa using first
    exact signClose '+' (by decide)

theorem separatedDate?_chain (cs : Text) (date : Date) (found : separatedDate? cs = some date) :
    cs.IsChain Close := by
  obtain ⟨separator, first, second, third, known, one, two, three, rfl⟩ :=
    separatedDate?_numerals cs date found
  have last := Numeral.chain_behind known three List.isChain_nil
  rw [List.append_nil] at last
  exact one.chain (Numeral.chain_behind known two last)

theorem behindSeparator?_of_chain (cs : Text) (chain : cs.IsChain Close) :
    behindSeparator? cs = none := by
  have whole := List.takeWhile_append_dropWhile (p := isBlank) (l := cs)
  rcases shape : cs.dropWhile isBlank with _ | ⟨a, _ | ⟨b, rest⟩⟩
  · exact behindSeparator?_short cs (by simp [shape])
  · exact behindSeparator?_short cs (by simp [shape])
  rw [behindSeparator?_of_two cs a b rest shape]
  rw [← whole, shape, List.isChain_append, List.isChain_cons_cons] at chain
  obtain ⟨_, ⟨pair, _⟩, joint⟩ := chain
  have visible : isBlank a = false := by
    have front := List.head?_dropWhile_not isBlank cs
    rw [shape] at front
    simpa using front
  have spaced (gap : cs.takeWhile isBlank ≠ []) : a.isDigit = true := by
    have ends := List.getLast?_eq_some_getLast gap
    have blank := List.mem_takeWhile_imp (List.getLast_mem gap)
    exact ((joint _ ends a rfl).1 blank).resolve_left (by simp [visible])
  have dots : ¬ (a = '.' ∧ b = '.') := fun both => pair.2 both.1 both.2
  rw [if_neg dots]
  split
  next hyphen =>
    rw [if_neg]
    intro both
    have digit := spaced both.1
    rw [hyphen] at digit
    cases digit
  next =>
    rw [Option.bind_eq_none_iff]
    intro c _
    rw [if_neg]
    intro all
    have digit := spaced all.1
    rw [← isDigit_toLower, all.2.1] at digit
    cases digit

theorem splitRange?_of_chain (cs : Text) (chain : cs.IsChain Close) : splitRange? cs = none := by
  induction cs with
  | nil => rfl
  | cons c cs ih => simp [splitRange?, behindSeparator?_of_chain _ chain, ih chain.tail]

theorem separatedDate?_count (cs : Text) (date : Date) (found : separatedDate? cs = some date) :
    2 ≤ cs.countP isDateSeparator := by
  obtain ⟨separator, first, second, third, known, _, _, _, rfl⟩ :=
    separatedDate?_numerals cs date found
  simp only [List.countP_append, List.countP_cons_of_pos known]
  omega

theorem isDateSeparator_of_isDigit (c : Char) (digit : c.isDigit = true) :
    isDateSeparator c = false := by
  rw [← Bool.not_eq_true]
  intro separator
  simp only [isDateSeparator, Bool.or_eq_true, beq_iff_eq] at separator
  rcases separator with (rfl | rfl) | rfl <;> cases digit

theorem countP_isDateSeparator (digits : Text) (number : digits.isNumber = true) :
    digits.countP isDateSeparator = 0 := by
  simp only [isNumber, Bool.and_eq_true, List.all_eq_true] at number
  rw [List.countP_eq_zero]
  intro c member
  simp [isDateSeparator_of_isDigit c (number.2 c member)]

theorem NumberedPeriod.Written.countP_separator {period : NumberedPeriod} {text : Text}
    (written : period.Written text) : text.countP isDateSeparator ≤ 1 := by
  have hyphen (year rest : Text) (four : year.IsYear) (none : rest.countP isDateSeparator = 0) :
      (year ++ '-' :: rest).countP isDateSeparator = 1 := by
    rw [List.countP_append, countP_isDateSeparator year four.1,
      List.countP_cons_of_pos (by decide), none]
  cases written with
  | yearOf year four => simp [countP_isDateSeparator text four.1]
  | monthOf year month four number short =>
    exact (hyphen year month four (countP_isDateSeparator month number)).le
  | weekOf year week letter four either number short =>
    have noSeparator : isDateSeparator letter = false := by
      rcases either with rfl | rfl <;> decide
    have none : (letter :: week).countP isDateSeparator = 0 := by
      simp [noSeparator, countP_isDateSeparator week number]
    exact (hyphen year (letter :: week) four none).le
  | quarterOf year letter quarter four either ge le =>
    have noSeparator : isDateSeparator letter = false := by
      rcases either with rfl | rfl <;> decide
    have noDigit := isDateSeparator_of_isDigit quarter (isDigit_of_quarter quarter ge le)
    have none : [letter, quarter].countP isDateSeparator = 0 := by
      simp [noSeparator, noDigit]
    exact (hyphen year [letter, quarter] four none).le

theorem numberedPeriod?_apart (today : Date) (cs : Text) (range : DateRange)
    (found : numberedPeriod? cs = some range) :
    relativePeriod? today cs = none ∧ explicitRange? today cs = none := by
  obtain ⟨period, written⟩ := exists_written cs range found
  obtain ⟨digit, visible⟩ := written.visible
  refine ⟨relativePeriod?_of_opensWithDigit today cs digit, ?_⟩
  simp [explicitRange?, splitRange?_visible cs visible]

theorem dayWords_letters : ∀ entry ∈ dayWords, 3 ≤ entry.1.length ∧
    entry.1.all (fun c => !isBlank c && !isDateSeparator c && !c.isDigit) = true := by
  simp only [dayWords, Text.ofString_eq]
  decide

theorem dayWord_letters {cs : Text} {entry : Text × Int} (member : entry ∈ dayWords)
    (word : cs.asciiLower = entry.1) : 3 ≤ cs.length ∧
      ∀ c ∈ cs, isBlank c = false ∧ isDateSeparator c = false ∧ c.isDigit = false := by
  obtain ⟨long, letters⟩ := dayWords_letters entry member
  rw [← word, asciiLower, List.length_map] at long
  refine ⟨long, ?_⟩
  intro c inside
  rw [← word] at letters
  have known := List.all_eq_true.mp letters c.toLower (List.mem_map_of_mem inside)
  simpa [isBlank_toLower, isDateSeparator_toLower, isDigit_toLower, and_assoc] using known

theorem Date.read?_forms (today date : Date) (cs : Text) (found : Date.read? today cs = some date) :
    (∀ c ∈ cs.trim, isBlank c = false ∧ c ≠ '.' ∧ c.isDigit = false) ∨
      separatedDate? cs.trim = some date := by
  rcases exists_dayWord_or_separated found with ⟨entry, member, word⟩ | separated
  · left
    intro c inside
    obtain ⟨visible, letter, noDigit⟩ := (dayWord_letters member word).2 c inside
    refine ⟨visible, ?_, noDigit⟩
    rintro rfl
    cases letter
  · exact .inr separated

section

variable (today date : Date) (cs : Text) (day : Date.read? today cs = some date)
include day

theorem relativePeriod?_of_day : relativePeriod? today cs.trim = none := by
  rw [Option.eq_none_iff_forall_ne_some]
  intro range found
  have relative := relativePeriod?_shape today cs.trim range found
  rw [← List.append_nil cs.trim] at relative
  have silent := relative.no_day today
  rw [Date.read?, trim_trim, ← Date.read?, day] at silent
  cases silent

theorem numberedPeriod?_of_day : numberedPeriod? cs.trim = none := by
  rw [Option.eq_none_iff_forall_ne_some]
  intro range found
  obtain ⟨period, written⟩ := exists_written cs.trim range found
  rcases Date.read?_forms today date cs day with word | separated
  · cases shape : cs.trim with
    | nil => simp [shape, numberedPeriod?, Text.digits?] at found
    | cons c rest =>
      have letter := (word c (by simp [shape])).2.2
      simp [shape, numberedPeriod?, Text.digits?, letter] at found
  · -- A period has at most one separator between its numbers, and a date has two.
    have few := written.countP_separator
    have many := separatedDate?_count cs.trim date separated
    omega

theorem explicitRange?_of_day : explicitRange? today cs.trim = none := by
  have whole : splitRange? cs.trim = none := by
    rcases Date.read?_forms today date cs day with word | separated
    · exact splitRange?_visible cs.trim fun c member => ⟨(word c member).1, (word c member).2.1⟩
    · exact splitRange?_of_chain cs.trim (separatedDate?_chain cs.trim date separated)
  simp [explicitRange?, whole]

end

def dateReadings (today : Date) : List (Text → Option DateRange) :=
  [fun cs => relativePeriod? today cs.trim, fun cs => numberedPeriod? cs.trim,
    fun cs => explicitRange? today cs.trim, fun cs => (Date.read? today cs).map .single]

theorem findSome?_dateReadings (today : Date) (cs : Text) :
    ((dateReadings today).findSome? fun reading => reading cs) =
      (DateRange.read? today cs).or ((Date.read? today cs).map .single) := by
  simp only [dateReadings, DateRange.read?, List.findSome?]
  cases relativePeriod? today cs.trim <;> cases numberedPeriod? cs.trim <;>
    cases explicitRange? today cs.trim <;> cases Date.read? today cs <;> rfl

theorem dateReadings_apart (today : Date) (cs : Text) :
    (dateReadings today).Pairwise fun first second => first cs = none ∨ second cs = none := by
  have relative : relativePeriod? today cs.trim = none ∨ explicitRange? today cs.trim = none := by
    cases found : relativePeriod? today cs.trim with
    | none => exact .inl rfl
    | some range => exact .inr ((relativePeriod?_shape today cs.trim range found).not_explicit today)
  have numbered : numberedPeriod? cs.trim = none ∨
      relativePeriod? today cs.trim = none ∧ explicitRange? today cs.trim = none := by
    cases found : numberedPeriod? cs.trim with
    | none => exact .inl rfl
    | some range => exact .inr (numberedPeriod?_apart today cs.trim range found)
  have day : Date.read? today cs = none ∨ relativePeriod? today cs.trim = none ∧
      numberedPeriod? cs.trim = none ∧ explicitRange? today cs.trim = none := by
    cases found : Date.read? today cs with
    | none => exact .inl rfl
    | some date =>
      exact .inr ⟨relativePeriod?_of_day today date cs found,
        numberedPeriod?_of_day today date cs found, explicitRange?_of_day today date cs found⟩
  simp only [dateReadings, List.pairwise_cons, List.forall_mem_cons, List.not_mem_nil,
    false_implies, implies_true, List.Pairwise.nil, and_true, Option.map_eq_none_iff]
  tauto

/-- A text is read as a day or a range in one way at most, so the readings may be tried in any
order; a day is never a range. -/
theorem DateRange.readings_exclusive (today : Date) (cs : Text) :
    ((dateReadings today).countP fun reading => (reading cs).isSome) ≤ 1 ∧
    (∀ date, Date.read? today cs = some date → DateRange.read? today cs = none) ∧
    ∀ order : List (Text → Option DateRange), order.Perm (dateReadings today) →
      (order.findSome? fun reading => reading cs) =
        (DateRange.read? today cs).or ((Date.read? today cs).map .single) := by
  have apart := dateReadings_apart today cs
  refine ⟨?_, ?_, ?_⟩
  · apply countP_le_one
    refine apart.imp ?_
    intro first second silent found
    rcases silent with silent | silent <;> simp_all
  · intro date day
    simp [DateRange.read?, relativePeriod?_of_day today date cs day,
      numberedPeriod?_of_day today date cs day, explicitRange?_of_day today date cs day]
  · intro order perm
    rw [← findSome?_dateReadings]
    exact findSome?_perm perm (perm.symm.pairwise apart fun silent => silent.symm)

theorem spacedDay_read_once :
    Date.read? ⟨2024, 3, 13, by decide⟩ "13- 2-+ 2024" = some ⟨2024, 2, 13, by decide⟩ ∧
      DateRange.read? ⟨2024, 3, 13, by decide⟩ "13- 2-+ 2024" = none ∧
      (dateReadings ⟨2024, 3, 13, by decide⟩).reverse.Perm (dateReadings ⟨2024, 3, 13, by decide⟩) ∧
      ((dateReadings ⟨2024, 3, 13, by decide⟩).reverse.findSome? fun reading =>
        reading "13- 2-+ 2024") = some (.single ⟨2024, 2, 13, by decide⟩) := by
  have day : Date.read? ⟨2024, 3, 13, by decide⟩ "13- 2-+ 2024" =
      some ⟨2024, 2, 13, by decide⟩ := by
    with_unfolding_all rfl
  have perm := List.reverse_perm (dateReadings ⟨2024, 3, 13, by decide⟩)
  obtain ⟨_, single, ordered⟩ :=
    DateRange.readings_exclusive ⟨2024, 3, 13, by decide⟩ "13- 2-+ 2024"
  have range := single _ day
  refine ⟨day, range, perm, ?_⟩
  rw [ordered _ perm, range, day]
  rfl

end TaskQuery
