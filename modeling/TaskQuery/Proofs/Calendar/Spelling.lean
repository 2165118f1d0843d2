import TaskQuery.Proofs.Calendar.NumberedPeriod
import TaskQuery.Proofs.Text.Spelling

set_option autoImplicit false

namespace TaskQuery

namespace Text

theorem unlettered_number? (width : Nat) (cs rest : Text) (n : Nat)
    (found : cs.number? width = some (n, rest)) (behind : Unlettered rest) : Unlettered cs := by
  obtain ⟨gap, digits, rfl, blank, _, all, _⟩ := number?_eq_some width cs rest n found
  have gapped : Unlettered gap := by
    intro c member
    have known := blank c member
    simp only [isAsciiBlank, Bool.or_eq_true, beq_iff_eq] at known
    rcases known with (((rfl | rfl) | rfl) | rfl) | rfl <;> decide
  exact (gapped.append (unlettered_of_isDigit all)).append behind

theorem unlettered_year? (cs rest : Text) (year : Int) (found : cs.year? = some (year, rest))
    (behind : Unlettered rest) : Unlettered cs := by
  obtain ⟨sign, digits, n, rfl, read, signed⟩ := year?_eq_some cs rest year found
  have front : Unlettered sign := by
    rcases signed with ⟨rfl, _⟩ | ⟨rfl | rfl, _⟩ <;> simp [Unlettered]
  exact front.append (unlettered_number? 4 digits rest n read behind)

theorem unlettered_strip? (separator : Char) (cs rest : Text)
    (sign : separator.isAlpha = false) (stripped : strip? [separator] cs = some rest)
    (behind : Unlettered rest) : Unlettered cs := by
  rw [(strip?_eq_some [separator] cs rest).mp stripped]
  have front : Unlettered [separator] := by
    simpa [Unlettered] using sign
  exact front.append behind

end Text

open Text

theorem DateOrder.unlettered (separator : Char) (sign : separator.isAlpha = false)
    (order : DateOrder) (cs : Text) (date : Date) (found : order.date? separator cs = some date) :
    Unlettered cs := by
  have nothing {rest : Text} {result : Option Date}
      (ends : (if rest = [] then result else none) = some date) : Unlettered rest := by
    rw [Option.ite_none_right_eq_some] at ends
    simp [ends.1, Unlettered]
  cases order <;> simp only [date?, Option.bind_eq_bind, Option.bind_eq_some_iff] at found <;>
    obtain ⟨⟨_, _⟩, first, _, dash, ⟨_, _⟩, second, _, hyphen, ⟨_, _⟩, third, ends⟩ := found
  case yearFirst =>
    have day := unlettered_number? _ _ _ _ third (nothing ends)
    have month := unlettered_number? _ _ _ _ second (unlettered_strip? _ _ _ sign hyphen day)
    exact unlettered_year? _ _ _ first (unlettered_strip? _ _ _ sign dash month)
  case dayFirst | monthFirst =>
    have year := unlettered_year? _ _ _ third (nothing ends)
    have middle := unlettered_number? _ _ _ _ second (unlettered_strip? _ _ _ sign hyphen year)
    exact unlettered_number? _ _ _ _ first (unlettered_strip? _ _ _ sign dash middle)

theorem separatedDate?_asciiLower (cs : Text) :
    separatedDate? (asciiLower cs) = separatedDate? cs := by
  apply read_asciiLower_of_unlettered separatedDate?
  intro cs date found
  simp only [separatedDate?, Option.bind_eq_bind, Option.bind_eq_some_iff] at found
  obtain ⟨separator, first, order⟩ := found
  have sign : separator.isAlpha = false := by
    have known := List.find?_some first
    simp only [isDateSeparator, Bool.or_eq_true, beq_iff_eq] at known
    rcases known with (rfl | rfl) | rfl <;> decide
  split at order
  next => exact DateOrder.yearFirst.unlettered separator sign cs date order
  next =>
    rcases Option.or_eq_some_iff.mp order with day | ⟨_, month⟩
    · exact DateOrder.dayFirst.unlettered separator sign cs date day
    · exact DateOrder.monthFirst.unlettered separator sign cs date month

theorem Date.read?_asciiLower (today : Date) (cs : Text) :
    read? today (asciiLower cs) = read? today cs := by
  simp only [read?, trim_asciiLower, asciiLower_asciiLower, separatedDate?_asciiLower]

theorem relativePeriod?_asciiLower (today : Date) (cs : Text) :
    relativePeriod? today (asciiLower cs) = relativePeriod? today cs := by
  simp only [relativePeriod?, unspaced_asciiLower, asciiLower_asciiLower]

theorem eq_toUpper_or_eq_toLower (c : Char) : c = c.toLower.toUpper ∨ c = c.toLower := by
  cases ascii : isAscii c with
  | true =>
    exact of_ascii_codes (fun c => c = c.toLower.toUpper ∨ c = c.toLower) (by decide) c ascii
  | false => exact .inr (toLower_of_not_ascii c ascii).symm

theorem exists_of_asciiLower_around {front back other : Text} {letter : Char}
    (first : Unlettered front) (rest : Unlettered back)
    (same : other.asciiLower = asciiLower (front ++ letter :: back)) :
    ∃ c, other = front ++ c :: back ∧ (c = letter.toLower.toUpper ∨ c = letter.toLower) := by
  rw [asciiLower_append, asciiLower_cons, first.asciiLower_eq, rest.asciiLower_eq] at same
  obtain ⟨front', behind, rfl, lead, tail⟩ := List.map_eq_append_iff.mp same
  obtain ⟨c, back', rfl, small, last⟩ := List.map_eq_cons_iff.mp tail
  rw [first.eq_of_asciiLower lead, rest.eq_of_asciiLower last, ← small]
  exact ⟨c, rfl, eq_toUpper_or_eq_toLower c⟩

theorem NumberedPeriod.Written.respelled {period : NumberedPeriod} {cs other : Text}
    (written : period.Written cs) (same : other.asciiLower = cs.asciiLower) :
    period.Written other := by
  have hyphen : Unlettered ['-'] := by
    simp [Unlettered]
  -- Only the letter of a week or a quarter may change its case.
  cases written with
  | yearOf year four =>
    have unlettered := unlettered_of_isNumber four.1
    rw [unlettered.asciiLower_eq] at same
    rw [unlettered.eq_of_asciiLower same]
    exact .yearOf cs four
  | monthOf year month four number short =>
    have unlettered : Unlettered (year ++ '-' :: month) :=
      (unlettered_of_isNumber four.1).append (hyphen.append (unlettered_of_isNumber number))
    rw [unlettered.asciiLower_eq] at same
    rw [unlettered.eq_of_asciiLower same]
    exact .monthOf year month four number short
  | weekOf year week letter four either number short =>
    have front := (unlettered_of_isNumber four.1).append hyphen
    rw [List.append_cons] at same
    obtain ⟨c, rfl, cases⟩ := exists_of_asciiLower_around front (unlettered_of_isNumber number) same
    have known : c = 'W' ∨ c = 'w' := by
      rcases either with rfl | rfl <;> exact cases
    rw [← List.append_cons]
    exact .weekOf year week c four known number short
  | quarterOf year letter quarter four either ge le =>
    have front := (unlettered_of_isNumber four.1).append hyphen
    have digit : Unlettered [quarter] :=
      unlettered_of_isDigit (by simp [isDigit_of_quarter quarter ge le])
    rw [List.append_cons] at same
    obtain ⟨c, rfl, cases⟩ := exists_of_asciiLower_around front digit same
    have known : c = 'Q' ∨ c = 'q' := by
      rcases either with rfl | rfl <;> exact cases
    rw [← List.append_cons]
    exact .quarterOf year c quarter four known ge le

theorem numberedPeriod?_asciiLower (cs : Text) :
    numberedPeriod? (asciiLower cs) = numberedPeriod? cs := by
  have agree (cs other : Text) (range : DateRange) (same : other.asciiLower = cs.asciiLower)
      (found : numberedPeriod? cs = some range) : numberedPeriod? other = some range := by
    obtain ⟨period, written⟩ := exists_written cs range found
    rw [numberedPeriod?_written period other (written.respelled same),
      ← numberedPeriod?_written period cs written, found]
  cases here : numberedPeriod? cs with
  | some range => exact agree cs (asciiLower cs) range (by simp) here
  | none =>
    cases small : numberedPeriod? (asciiLower cs) with
    | none => rfl
    | some range =>
      rw [agree (asciiLower cs) cs range (by simp) small] at here
      cases here

theorem behindSeparator?_short (cs : Text) (short : (cs.dropWhile isBlank).length < 2) :
    behindSeparator? cs = none := by
  unfold behindSeparator?
  dsimp only
  split
  next shape =>
    simp only [shape, List.length_cons] at short
    omega
  next shape =>
    simp only [shape, List.length_cons] at short
    omega
  next shape =>
    simp only [shape, List.length_cons] at short
    omega
  next => rfl

-- A separator is two dots, a hyphen or a word, so two characters tell which one it can be.
theorem behindSeparator?_of_two (cs : Text) (a b : Char) (rest : Text)
    (shape : cs.dropWhile isBlank = a :: b :: rest) :
    behindSeparator? cs =
      if a = '.' ∧ b = '.' then some (trimStart rest)
      else if a = '-' then
        if cs.takeWhile isBlank ≠ [] ∧ isBlank b then some (trimStart rest) else none
      else rest.head?.bind fun c =>
        if cs.takeWhile isBlank ≠ [] ∧ a.toLower = 't' ∧ b.toLower = 'o' ∧ isBlank c then
          some (trimStart rest.tail)
        else none := by
  unfold behindSeparator?
  dsimp only
  split
  next back same =>
    rw [shape] at same
    cases same
    simp
  next c back same =>
    rw [shape] at same
    cases same
    simp
  next t o c back dots hyphen same =>
    rw [shape] at same
    cases same
    have dotted : ¬ (a = '.' ∧ b = '.') := fun both => dots both.1 both.2
    have dashed : a ≠ '-' := hyphen
    simp [dotted, dashed]
  next dots hyphen word =>
    have dotted : ¬ (a = '.' ∧ b = '.') := by
      rintro ⟨rfl, rfl⟩
      exact dots _ shape
    have dashed : a ≠ '-' := by
      rintro rfl
      exact hyphen _ _ shape
    cases rest with
    | nil => simp [dotted, dashed]
    | cons c rest => exact absurd shape (word a b c rest)

theorem behindSeparator?_asciiLower (cs : Text) :
    behindSeparator? (asciiLower cs) = (behindSeparator? cs).map asciiLower := by
  have gap := takeWhile_asciiLower isBlank isBlank_toLower cs
  have visible := dropWhile_asciiLower isBlank isBlank_toLower cs
  have start (cs : Text) : trimStart (asciiLower cs) = asciiLower (trimStart cs) :=
    dropWhile_asciiLower isBlank isBlank_toLower cs
  rcases shape : cs.dropWhile isBlank with _ | ⟨a, _ | ⟨b, rest⟩⟩
  · have empty : (asciiLower cs).dropWhile isBlank = [] := by
      rw [visible, shape]
      rfl
    rw [behindSeparator?_short cs (by simp [shape]), behindSeparator?_short _ (by simp [empty])]
    rfl
  · have single : (asciiLower cs).dropWhile isBlank = [a.toLower] := by
      rw [visible, shape]
      rfl
    rw [behindSeparator?_short cs (by simp [shape]), behindSeparator?_short _ (by simp [single])]
    rfl
  · rw [shape] at visible
    rw [behindSeparator?_of_two cs a b rest shape,
      behindSeparator?_of_two _ a.toLower b.toLower (asciiLower rest) visible, gap]
    have signs (c : Char) := toLower_eq_sign c '.' (by decide)
    have hyphen := toLower_eq_sign a '-' (by decide)
    simp only [signs, hyphen, isBlank_toLower, toLower_toLower, ne_eq, asciiLower_eq_nil, start]
    cases rest with
    | nil => split_ifs <;> rfl
    | cons c rest =>
      simp only [asciiLower_cons, List.head?_cons, Option.bind_some, isBlank_toLower,
        List.tail_cons, start]
      split_ifs <;> rfl

theorem splitRange?_asciiLower (cs : Text) :
    splitRange? (asciiLower cs) =
      (splitRange? cs).map (Prod.map asciiLower asciiLower) := by
  induction cs with
  | nil => rfl
  | cons c cs ih =>
    have behind := behindSeparator?_asciiLower (c :: cs)
    rw [asciiLower_cons] at behind ⊢
    simp only [splitRange?, behind, ih]
    cases behindSeparator? (c :: cs) with
    | some rest => rfl
    | none => cases splitRange? cs <;> rfl

theorem explicitRange?_asciiLower (today : Date) (cs : Text) :
    explicitRange? today (asciiLower cs) = explicitRange? today cs := by
  simp only [explicitRange?, splitRange?_asciiLower]
  cases splitRange? cs with
  | none => rfl
  | some sides => simp [Date.read?_asciiLower]

theorem DateRange.read?_asciiLower (today : Date) (cs : Text) :
    read? today (asciiLower cs) = read? today cs := by
  simp only [read?, trim_asciiLower, relativePeriod?_asciiLower, numberedPeriod?_asciiLower,
    explicitRange?_asciiLower]

end TaskQuery
