import Mathlib.Data.List.Infix
import TaskQuery.Calendar.Long
import TaskQuery.Proofs.Calendar.Separated
import TaskQuery.Proofs.Calendar.Separator

set_option autoImplicit false

namespace TaskQuery

namespace Text

theorem OpensWithDigit.head?_trim {cs : Text} (opens : cs.OpensWithDigit) :
    ∀ c ∈ cs.trim.head?, c.isDigit = true := by
  intro c first
  obtain ⟨d, lower, digit⟩ := opens
  obtain ⟨rest, shape⟩ := List.head?_eq_some_iff.mp first
  obtain ⟨e, first', visible⟩ := (framed_of_trim (trim_trim cs) (by simp [shape])).opens
  obtain rfl : c = e := Option.some.inj (first.symm.trans first')
  rw [← opening?_trim, shape, opening?_cons c rest visible, Option.some.injEq] at lower
  rwa [← isDigit_toLower, lower]

theorem EndsWithDigit.getLast?_trim {cs : Text} (ends : cs.EndsWithDigit) :
    ∀ c ∈ cs.trim.getLast?, c.isDigit = true := by
  intro c last
  obtain ⟨d, lower, digit⟩ := ends
  obtain ⟨rest, shape⟩ := List.getLast?_eq_some_iff.mp last
  obtain ⟨e, last', visible⟩ := (framed_of_trim (trim_trim cs) (by simp [shape])).closes
  obtain rfl : c = e := Option.some.inj (last.symm.trans last')
  rw [← closing?_trim, shape, closing?_concat rest c visible, Option.some.injEq] at lower
  rwa [← isDigit_toLower, lower]

end Text

open Text

theorem Date.read?_congr (today : Date) {cs other : Text} (same : cs.trim = other.trim) :
    read? today cs = read? today other := by
  simp only [read?, same]

section

variable {today date : Date} {before after : Text}

theorem Date.spaced_character {c : Char}
    (day : Date.read? today (before ++ c :: after) = some date) (visible : isBlank c = false)
    (spaced : ∀ d ∈ before.getLast?, isBlank d = true) :
    c.isDigit = true ∨ isDateSeparator c = false ∧
      ∃ b e rest, after = b :: e :: rest ∧ isBlank e = false := by
  obtain ⟨lead, front, back, trail, rfl, trimmed, rfl⟩ :=
    exists_trim_around before after visible
  have day := exists_dayWord_or_separated day
  rw [trimmed] at day
  rcases day with ⟨entry, member, word⟩ | separated
  · right
    obtain ⟨long, letters⟩ := dayWord_letters member word
    rcases List.eq_nil_or_concat front with rfl | ⟨rest, d, rfl⟩
    · obtain ⟨b, e, rest, rfl⟩ : ∃ b e rest, back = b :: e :: rest := by
        match back, long with
        | b :: e :: rest, _ => exact ⟨b, e, rest, rfl⟩
      exact ⟨(letters c (by simp)).2.1, b, e, rest ++ trail, by simp, (letters e (by simp)).1⟩
    · have blank := spaced d (by simp)
      rw [(letters d (by simp)).1] at blank
      cases blank
  · left
    rcases List.eq_nil_or_concat front with rfl | ⟨rest, d, rfl⟩
    · have opens := (separatedDate?_shape _ date separated).2.1
      rw [List.nil_append] at trimmed opens
      have digits := opens.head?_trim
      rw [← trimmed, trim_trim, trimmed] at digits
      exact digits c rfl
    · have blank := spaced d (by simp)
      have chain := separatedDate?_chain _ date separated
      rw [List.concat_eq_append, List.append_assoc, List.singleton_append,
        List.isChain_append_cons_cons] at chain
      exact (chain.2.1.1 blank).resolve_left (by simp [visible])

theorem Date.behind_dot (day : Date.read? today (before ++ '.' :: after) = some date) :
    ∃ c rest, after = c :: rest ∧ c ≠ '.' := by
  obtain ⟨lead, front, back, trail, rfl, trimmed, rfl⟩ :=
    exists_trim_around before after (show isBlank '.' = false by decide)
  have day := exists_dayWord_or_separated day
  rw [trimmed] at day
  rcases day with ⟨entry, member, word⟩ | separated
  · have letter := ((dayWord_letters member word).2 '.' (by simp)).2.1
    cases letter
  · cases back with
    | nil =>
      have ends := (separatedDate?_shape _ date separated).2.2.getLast?_trim
      rw [← trimmed, trim_trim, trimmed] at ends
      have digit := ends '.' (by simp)
      cases digit
    | cons c rest =>
      have chain := separatedDate?_chain _ date separated
      rw [List.isChain_append_cons_cons] at chain
      exact ⟨c, rest ++ trail, rfl, chain.2.1.2 rfl⟩

theorem Date.not_dot_first (day : Date.read? today ('.' :: after) = some date) : False := by
  rw [← List.nil_append ('.' :: after)] at day
  rcases spaced_character day (by decide) (by simp) with digit | ⟨letter, _⟩
  · cases digit
  · cases letter

end

theorem Date.ne_nil_of_read? {today date : Date} {cs : Text}
    (day : Date.read? today cs = some date) : cs ≠ [] := by
  rintro rfl
  rcases exists_dayWord_or_separated day with ⟨entry, member, word⟩ | separated
  · have long := (dayWord_letters member word).1
    simp [trim, trimStart] at long
  · cases separated

section

variable {today first last : Date} {left joint right left' joint' right' : Text}

theorem Text.Joint.not_inside {front before inside rest : Text}
    (joined : Joint (front ++ before) joint right)
    (day : Date.read? today (before ++ inside) = some first) (nonempty : inside ≠ [])
    (same : inside ++ rest = joint ++ right) : False := by
  obtain ⟨c, after, rfl⟩ := List.exists_cons_of_ne_nil nonempty
  have spaced (sides : Spaced (front ++ before) right) : ∀ d ∈ before.getLast?, isBlank d = true := by
    intro d ends
    have last := sides.1
    rwa [List.getLast?_append, Option.mem_def.mp ends, Option.some_or, Option.any_some] at last
  have visible := joined.visible.2
  cases joined with
  | word _ t o tee oh sides =>
    simp only [List.cons_append, List.nil_append, List.cons.injEq] at same
    obtain ⟨rfl, same⟩ := same
    rcases Date.spaced_character day (visible c (by simp)) (spaced sides) with
      digit | ⟨_, b, e, more, rfl, shown⟩
    · rw [← isDigit_toLower, tee] at digit
      cases digit
    · obtain ⟨_, rfl⟩ := List.cons.inj same
      have blank := sides.2
      simp [shown] at blank
  | hyphen _ sides =>
    simp only [List.cons_append, List.nil_append, List.cons.injEq] at same
    obtain ⟨rfl, _⟩ := same
    rcases Date.spaced_character day (visible '-' (by simp)) (spaced sides) with digit | ⟨letter, _⟩
    · cases digit
    · cases letter
  | dots =>
    simp only [List.cons_append, List.nil_append, List.cons.injEq] at same
    obtain ⟨rfl, same⟩ := same
    obtain ⟨e, more, rfl, other⟩ := Date.behind_dot day
    exact other (List.cons.inj same).1

theorem Text.Joint.not_within {front before : Text} (joined : Joint (front ++ before) joint right)
    (day : Date.read? today (before ++ (joint ++ right)) = some first) : False :=
  joined.not_inside day (by simp [joined.visible.1]) (List.append_nil _)

theorem Text.Joint.length_eq (joined : Joint left joint right) :
    joint.length = if (joint ++ right).head? = some '-' then 1 else 2 := by
  cases joined with
  | word _ t o tee =>
    have other : t ≠ '-' := by
      rintro rfl
      cases tee
    simp [other]
  | hyphen => rfl
  | dots => rfl

theorem Text.Joint.eq_of_append (joined : Joint left joint right)
    (joined' : Joint left' joint' right') (same : joint ++ right = joint' ++ right') :
    right = right' :=
  List.append_inj_right same (by rw [joined.length_eq, joined'.length_eq, same])

theorem Text.Joint.cut {front back : Text} (joined : Joint left (front ++ back) right)
    (nonempty : front ≠ []) (nonempty' : back ≠ []) :
    ∃ c, back = [c] ∧ (c.toLower = 'o' ∨ c = '.') := by
  have second {c d : Char} (whole : front ++ back = [c, d]) : back = [d] := by
    obtain ⟨e, front, rfl⟩ := List.exists_cons_of_ne_nil nonempty
    simp only [List.cons_append, List.cons.injEq, List.append_eq_singleton_iff, nonempty', and_false,
      or_false] at whole
    exact whole.2.2
  generalize whole : front ++ back = joint at joined
  cases joined with
  | word _ t o _ oh => exact ⟨o, second whole, .inl oh⟩
  | hyphen => simp [List.append_eq_singleton_iff, nonempty, nonempty'] at whole
  | dots => exact ⟨'.', second whole, .inr rfl⟩

theorem Text.Joint.overlap {front back : Text} (joined : Joint left (front ++ back) right)
    (joined' : Joint left' joint' right') (nonempty : front ≠ []) (nonempty' : back ≠ [])
    (same : joint' ++ right' = back ++ right) : ∃ rest, right = '.' :: rest := by
  obtain ⟨c, rfl, middle⟩ := joined.cut nonempty nonempty'
  -- Of two separators that overlap both are dots.
  cases joined' with
  | word _ t o tee =>
    obtain ⟨rfl, _⟩ := List.cons.inj same
    rcases middle with oh | rfl
    · rw [tee] at oh
      cases oh
    · cases tee
  | hyphen =>
    obtain ⟨rfl, _⟩ := List.cons.inj same
    simp at middle
  | dots => exact ⟨right', (List.cons.inj same).2.symm⟩

/-- A text is cut in one place only at a separator between two dates. -/
theorem Text.Joint.unique (joined : Joint left joint right) (joined' : Joint left' joint' right')
    (front : Date.read? today left = some first) (back : Date.read? today right = some last)
    (same : left ++ joint ++ right = left' ++ joint' ++ right') : left = left' ∧ right = right' := by
  rw [List.append_assoc, List.append_assoc, List.append_eq_append_iff] at same
  rcases same with ⟨inside, rfl, same⟩ | ⟨inside, rfl, same⟩
  · by_cases none : inside = []
    · subst none
      exact ⟨(List.append_nil left).symm, joined.eq_of_append joined' same⟩
    exfalso
    -- The other separator stands in the second date, or from inside the first separator on.
    rw [List.append_eq_append_iff] at same
    rcases same with ⟨more, rfl, rfl⟩ | ⟨more, rfl, same⟩
    · rw [← List.append_assoc] at joined'
      exact joined'.not_within back
    · by_cases none' : more = []
      · subst none'
        rw [List.nil_append] at same
        rw [← List.append_nil (left ++ inside)] at joined'
        rw [← same] at back
        exact joined'.not_within back
      · obtain ⟨rest, rfl⟩ := joined.overlap joined' none none' same
        exact Date.not_dot_first back
  · by_cases none : inside = []
    · subst none
      exact ⟨List.append_nil left', (joined'.eq_of_append joined same).symm⟩
    · rw [← List.nil_append left'] at joined'
      exact (joined'.not_inside front none same.symm).elim

end

theorem explicitRange?_eq_some (today : Date) (cs : Text) (range : DateRange) :
    explicitRange? today cs = some range ↔ ∃ left joint right first last,
      Joint left joint right ∧ cs = left ++ joint ++ right ∧
      Date.read? today left = some first ∧ Date.read? today right = some last ∧
      DateRange.between first last = range := by
  have sides {left right : Text} (split : splitRange? cs = some (left, right)) :
      explicitRange? today cs = some range ↔ ∃ first last, Date.read? today left = some first ∧
        Date.read? today right = some last ∧ DateRange.between first last = range := by
    simp [explicitRange?, split, Option.bind_eq_some_iff]
  constructor
  · intro found
    cases split : splitRange? cs with
    | none => simp [explicitRange?, split] at found
    | some pair =>
      obtain ⟨front, back⟩ := pair
      obtain ⟨first, last, one, two, same⟩ := (sides split).mp found
      obtain ⟨left, joint, right, joined, shape, before, after⟩ :=
        splitRange?_joint cs front back split
      rw [Date.read?_congr today before] at one
      rw [Date.read?_congr today after] at two
      exact ⟨left, joint, right, first, last, joined, shape, one, two, same⟩
  · rintro ⟨left, joint, right, first, last, joined, rfl, one, two, same⟩
    obtain ⟨⟨front, back⟩, split⟩ := Option.isSome_iff_exists.mp joined.isSome_splitRange?
    obtain ⟨left', joint', right', joined', shape, before, after⟩ :=
      splitRange?_joint _ front back split
    obtain ⟨rfl, rfl⟩ := joined.unique joined' one two shape
    rw [← Date.read?_congr today before] at one
    rw [← Date.read?_congr today after] at two
    exact (sides split).mpr ⟨first, last, one, two, same⟩

theorem explicitRange?_trim (today : Date) (cs : Text) :
    explicitRange? today cs.trim = explicitRange? today cs := by
  ext range
  rw [explicitRange?_eq_some, explicitRange?_eq_some]
  constructor
  · rintro ⟨left, joint, right, first, last, joined, shape, one, two, same⟩
    obtain ⟨lead, trail, whole, before, after⟩ := exists_trim cs
    have spaced := spaced_append_iff lead trail (Date.ne_nil_of_read? one)
      (Date.ne_nil_of_read? two)
    rw [← Date.read?_congr today (trim_gap_append left before)] at one
    rw [← Date.read?_congr today (trim_append_gap right after)] at two
    refine ⟨lead ++ left, joint, right ++ trail, first, last, joined.map spaced.mpr, ?_, one, two,
      same⟩
    rw [whole, shape]
    simp
  · rintro ⟨left, joint, right, first, last, joined, rfl, one, two, same⟩
    obtain ⟨right, trail, rfl, after, ends⟩ := exists_visible_end right
    have front : left.takeWhile isBlank ++ trimStart left = left := List.takeWhile_append_dropWhile
    rw [← Date.read?_congr today (trim_trimStart left)] at one
    rw [Date.read?_congr today (trim_append_gap right after)] at two
    have starts := Date.ne_nil_of_read? one
    have stops := Date.ne_nil_of_read? two
    rw [← front] at joined
    replace joined := joined.map (spaced_append_iff _ trail starts stops).mp
    have framed : (trimStart left ++ joint ++ right).Framed := by
      obtain ⟨c, rest, shape⟩ := List.exists_cons_of_ne_nil starts
      obtain ⟨rest', d, shape'⟩ := (List.eq_nil_or_concat right).resolve_left stops
      refine ⟨⟨c, by simp [shape], head?_trimStart left c (by simp [shape])⟩, d, by simp [shape'],
        ends d (by simp [shape'])⟩
    refine ⟨trimStart left, joint, right, first, last, joined, ?_, one, two, same⟩
    rw [← framed.trim_between (left.takeWhile isBlank) trail List.all_takeWhile after]
    simp only [← List.append_assoc, front]

theorem relativeWords_unseparated : ∀ word ∈ relativeWords, ∀ unit : CalendarUnit,
    ¬ ['t', 'o'] <:+: word ++ unit.word := by
  intro word member unit
  revert word
  cases unit <;>
    simp only [relativeWords, periodWords, CalendarUnit.word, List.map_cons, List.map_nil,
      Text.ofString_eq] <;>
    decide

section

variable {left joint right : Text} (joined : Joint left joint right)

include joined

theorem relativePeriod?_of_joint (today : Date) :
    relativePeriod? today (left ++ joint ++ right).trim = none := by
  rw [Option.eq_none_iff_forall_ne_some]
  intro range found
  obtain ⟨word, member, unit, letters⟩ := relativePeriod?_shape today _ range found
  have visible : unspaced joint = joint :=
    List.filter_eq_self.mpr fun c inside => by simp [joined.visible.2 c inside]
  rw [unspaced_trim, unspaced_append, unspaced_append, visible, asciiLower_append,
    asciiLower_append] at letters
  have inside : joint.asciiLower <:+: word ++ unit.word := by
    rw [← letters]
    exact List.infix_append _ _ _
  cases joined with
  | word _ t o tee oh =>
    simp only [asciiLower, List.map_cons, List.map_nil, tee, oh] at inside
    exact relativeWords_unseparated word member unit inside
  | hyphen | dots =>
    have known := List.all_eq_true.mp (relativeWords_apart word member unit).2 _
      (inside.mem List.mem_cons_self)
    simp [isDateSeparator] at known

theorem numberedPeriod?_of_joint : numberedPeriod? (left ++ joint ++ right).trim = none := by
  rw [Option.eq_none_iff_forall_ne_some]
  intro range found
  obtain ⟨period, written⟩ := exists_written _ range found
  obtain ⟨opens, shown⟩ := written.visible
  obtain ⟨nonempty, visible⟩ := joined.visible
  obtain ⟨c, rest, rfl⟩ := List.exists_cons_of_ne_nil nonempty
  rw [List.append_assoc, List.cons_append] at opens shown
  obtain ⟨lead, front, back, trail, rfl, trimmed, whole⟩ :=
    exists_trim_around left (rest ++ right) (visible c List.mem_cons_self)
  rw [trimmed] at opens shown
  have digit (sides : Spaced (lead ++ front) right) : c.isDigit = true := by
    rcases List.eq_nil_or_concat front with rfl | ⟨kept, d, rfl⟩
    · have first := opens.head?_trim
      rw [← trimmed, trim_trim, trimmed] at first
      exact first c rfl
    · have blank := sides.1
      simp [(shown d (by simp)).1] at blank
  cases joined with
  | word _ t o tee oh sides =>
    have known := digit sides
    rw [← isDigit_toLower, tee] at known
    cases known
  | hyphen _ sides =>
    have known := digit sides
    cases known
  | dots => exact (shown '.' (by simp)).2 rfl

theorem DateRange.read?_of_joint (today : Date) :
    read? today (left ++ joint ++ right) = explicitRange? today (left ++ joint ++ right) := by
  rw [read?, relativePeriod?_of_joint joined today, numberedPeriod?_of_joint joined,
    explicitRange?_trim]
  rfl

end

theorem DateRange.read?_separated (today : Date) (front back : Text) {separator : Text}
    (separates : separator.Separates) (range : DateRange) :
    read? today (front ++ separator ++ back) = some range ↔ ∃ first last,
      Date.read? today front = some first ∧ Date.read? today back = some last ∧
        between first last = range := by
  obtain ⟨left, joint, right, joined, shape, before, after⟩ := separates.joint front back
  rw [shape, read?_of_joint joined, explicitRange?_eq_some, ← Date.read?_congr today before,
    ← Date.read?_congr today after]
  constructor
  · rintro ⟨left', joint', right', first, last, joined', shape', one, two, same⟩
    obtain ⟨rfl, rfl⟩ := joined'.unique joined one two shape'.symm
    exact ⟨first, last, one, two, same⟩
  · rintro ⟨first, last, one, two, same⟩
    exact ⟨left, joint, right, first, last, joined, rfl, one, two, same⟩

theorem DateRange.between_comm (a b : Date) : between a b = between b a := by
  unfold between
  rcases lt_trichotomy a b with less | rfl | less
  · simp [less.le, less.not_ge]
  · rfl
  · simp [less.le, less.not_ge]

theorem DateRange.between_ends (range : DateRange) : between range.first range.last = range :=
  dif_pos range.ordered

theorem Date.read?_iso (today date : Date) (positive : 0 ≤ date.year) :
    read? today date.iso = some date := by
  have written := (read?_written (show isDateSeparator '-' = true by decide) today positive
    (List.mem_pair.mpr (.inr rfl)) (List.mem_pair.mpr (.inr rfl))).1
  have shape : date.iso = Text.join ['-'] [Text.padded 4 date.year.toNat,
      Text.padded 2 date.month, Text.padded 2 date.day] := by
    have year : date.year.natAbs = date.year.toNat := by omega
    simp [Date.iso, Text.join_three, year, show ¬ date.year < 0 by omega]
  rw [shape, written]

/-- Two dates with a separator between them are the range between them, in either order, however
the dates are spelled; with no date on one side there is no range. A range reads back from its
text. -/
theorem DateRange.explicit_ranges_compose (today : Date) :
    (∀ front separator back : Text, separator.Separates →
      (∀ first last, Date.read? today front = some first → Date.read? today back = some last →
        read? today (front ++ separator ++ back) = some (between first last) ∧
          read? today (back ++ separator ++ front) = some (between first last)) ∧
      (Date.read? today front = none ∨ Date.read? today back = none →
        read? today (front ++ separator ++ back) = none)) ∧
    ∀ range : DateRange, 0 ≤ range.first.year → read? today range.text = some range := by
  refine ⟨?_, ?_⟩
  · intro front separator back separates
    constructor
    · intro first last one two
      rw [read?_separated today front back separates, read?_separated today back front separates]
      exact ⟨⟨first, last, one, two, rfl⟩, last, first, two, one, between_comm last first⟩
    · intro silent
      rw [Option.eq_none_iff_forall_ne_some]
      intro range found
      obtain ⟨first, last, one, two, _⟩ := (read?_separated today front back separates range).mp found
      simp [one, two] at silent
  · intro range positive
    have later : 0 ≤ range.last.year := by
      have ordered := range.ordered
      rw [Date.le_def, Date.lt_def] at ordered
      omega
    have blank : Text.Gap [' '] := ⟨by simp, by decide⟩
    have separates : Text.Separates " to " := by
      rw [Text.ofString_eq]
      exact .word [' '] [' '] 't' 'o' blank blank rfl rfl
    rw [text, read?_separated today _ _ separates]
    exact ⟨range.first, range.last, Date.read?_iso today _ positive, Date.read?_iso today _ later,
      between_ends range⟩

theorem leapDay_to_tomorrow :
    Text.Separates "\tTo " ∧ Date.read? leapDay "Tomorrow" = some ⟨2024, 3, 1, by decide⟩ ∧
      Date.read? leapDay "29- 2-2024" = some leapDay ∧
      DateRange.read? leapDay
          (Text.ofString "Tomorrow" ++ Text.ofString "\tTo " ++ Text.ofString "29- 2-2024") =
        some (.between ⟨2024, 3, 1, by decide⟩ leapDay) ∧
      Date.read? leapDay "soon" = none ∧
      DateRange.read? leapDay
          (Text.ofString "Tomorrow" ++ Text.ofString "\tTo " ++ Text.ofString "soon") = none ∧
      0 ≤ leapDay.year ∧
      DateRange.read? leapDay (DateRange.single leapDay).text = some (.single leapDay) := by
  have separates : Text.Separates "\tTo " := by
    rw [Text.ofString_eq]
    exact .word ['\t'] [' '] 'T' 'o' ⟨by simp, by decide⟩ ⟨by simp, by decide⟩ (by decide) rfl
  have tomorrow : Date.read? leapDay "Tomorrow" = some ⟨2024, 3, 1, by decide⟩ := by
    with_unfolding_all rfl
  have today : Date.read? leapDay "29- 2-2024" = some leapDay := by
    with_unfolding_all rfl
  have soon : Date.read? leapDay "soon" = none := by
    with_unfolding_all rfl
  obtain ⟨composed, displayed⟩ := DateRange.explicit_ranges_compose leapDay
  exact ⟨separates, tomorrow, today, ((composed _ _ _ separates).1 _ _ tomorrow today).1, soon,
    (composed _ _ _ separates).2 (.inr soon), by decide,
    displayed (.single leapDay) (by decide)⟩

end TaskQuery
