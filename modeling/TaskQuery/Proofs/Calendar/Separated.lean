import TaskQuery.Proofs.Calendar.Exclusion
import TaskQuery.Proofs.Calendar.Iso
import TaskQuery.Proofs.Text.Words

set_option autoImplicit false

namespace TaskQuery

inductive Text.Figure (width : Nat) : Text → Nat → Prop where
  | intro (gap digits : Text) (blank : gap.all isAsciiBlank = true) (number : digits.isNumber = true)
    (short : digits.length ≤ width) : Figure width (gap ++ digits) digits.value

def Text.IsShort (digits : Text) : Prop :=
  digits.isNumber = true ∧ digits.length ≤ 2

def Text.spellings (n : Nat) : List Text :=
  [ofNat n, padded 2 n]

namespace Text

theorem isNumber_iff (digits : Text) :
    digits.isNumber = true ↔ digits ≠ [] ∧ ∀ c ∈ digits, c.isDigit = true := by
  simp [isNumber]

theorem IsShort.figure {digits : Text} (short : digits.IsShort) : Figure 2 digits digits.value :=
  .intro [] digits rfl short.1 short.2

theorem IsYear.figure {year : Text} (four : year.IsYear) : Figure 4 year year.value :=
  .intro [] year rfl four.1 four.2.le

def StopsDigits (rest : Text) : Prop :=
  rest.head?.all (!Char.isDigit ·) = true

theorem takeWhile_digits (width : Nat) (digits rest : Text) (all : ∀ c ∈ digits, c.isDigit = true)
    (short : digits.length ≤ width) (stops : rest.StopsDigits) :
    ((digits ++ rest).take width).takeWhile Char.isDigit = digits := by
  rw [List.take_append, List.take_of_length_le short, List.takeWhile_append_of_pos all]
  cases rest with
  | nil => simp
  | cons c rest =>
    have stop : c.isDigit = false := by simpa [StopsDigits] using stops
    cases width - digits.length <;> simp [stop]

theorem Figure.number? {width n : Nat} {figure rest : Text} (read : Figure width figure n)
    (stops : rest.StopsDigits) : Text.number? width (figure ++ rest) = some (n, rest) := by
  obtain ⟨gap, digits, blank, number, short⟩ := read
  obtain ⟨nonempty, all⟩ := (isNumber_iff digits).mp number
  have visible : (gap ++ digits ++ rest).dropWhile isAsciiBlank = digits ++ rest := by
    rw [List.append_assoc, List.dropWhile_append_of_pos (by simpa using blank)]
    cases digits with
    | nil => exact absurd rfl nonempty
    | cons c digits =>
      have shown : isAsciiBlank c = false := by
        rw [← Bool.not_eq_true]
        intro ascii
        have blank := isBlank_of_isAsciiBlank c ascii
        rw [isBlank_of_isDigit c (all c List.mem_cons_self)] at blank
        cases blank
      simp [shown]
  simp only [Text.number?, visible, takeWhile_digits width digits rest all short stops, nonempty,
    if_false, List.drop_left]

theorem exists_figure {width n : Nat} {cs rest : Text} (found : cs.number? width = some (n, rest)) :
    ∃ figure, Figure width figure n ∧ cs = figure ++ rest := by
  obtain ⟨gap, digits, rfl, blank, nonempty, all, short, rfl⟩ := number?_eq_some width cs rest n found
  exact ⟨gap ++ digits, .intro gap digits (List.all_eq_true.mpr blank)
    ((isNumber_iff digits).mpr ⟨nonempty, all⟩) short, rfl⟩

theorem IsYear.year? {year rest : Text} (four : year.IsYear) (stops : rest.StopsDigits) :
    Text.year? (year ++ rest) = some ((year.value : Int), rest) := by
  have read := four.figure.number? stops
  obtain ⟨nonempty, all⟩ := (isNumber_iff year).mp four.1
  cases year with
  | nil => exact absurd rfl nonempty
  | cons c year =>
    have digit := all c List.mem_cons_self
    unfold Text.year?
    split
    next same =>
      cases same
      cases digit
    next same =>
      cases same
      cases digit
    next => rw [read]; rfl

theorem IsYear.of_padded {n : Nat} (small : n ≤ 9999) : (padded 4 n).IsYear :=
  ⟨isNumber_padded 4 n, length_padded 4 n
    ((Nat.length_toDigits_le_iff (by decide) (by decide)).mpr (by omega))⟩

theorem isShort_of_spelling {n : Nat} (small : n ≤ 99) {text : Text} (spelled : text ∈ spellings n) :
    text.IsShort ∧ text.value = n := by
  have length : (ofNat n).length ≤ 2 :=
    (Nat.length_toDigits_le_iff (by decide) (by decide)).mpr (by omega)
  rcases List.mem_pair.mp spelled with rfl | rfl
  · exact ⟨⟨isNumber_ofNat n, length⟩, value_ofNat n⟩
  · exact ⟨⟨isNumber_padded 2 n, (length_padded 2 n length).le⟩, value_padded 2 n⟩

end Text

theorem Text.strip?_separator (separator : Char) (cs : Text) :
    strip? [separator] (separator :: cs) = some cs :=
  (strip?_eq_some [separator] _ _).mpr rfl

theorem Text.stopsDigits_nil : StopsDigits [] :=
  rfl

section

variable {separator : Char} (known : isDateSeparator separator = true)

include known

theorem stopsDigits_separator (rest : Text) : Text.StopsDigits (separator :: rest) := by
  have sign : separator.isDigit = false := by
    rw [← Bool.not_eq_true]
    intro digit
    rw [isDateSeparator_of_isDigit separator digit] at known
    cases known
  simp [Text.StopsDigits, sign]

theorem find?_separator (digits rest : Text) (all : ∀ c ∈ digits, c.isDigit = true) :
    (digits ++ separator :: rest).find? isDateSeparator = some separator := by
  have none : digits.find? isDateSeparator = none := by
    rw [List.find?_eq_none]
    intro c member
    simp [isDateSeparator_of_isDigit c (all c member)]
  simp [none, known]

theorem separatedDate?_year {year : Text} (rest : Text) (four : year.IsYear) :
    separatedDate? (year ++ separator :: rest) =
      DateOrder.yearFirst.date? separator (year ++ separator :: rest) := by
  have all := ((Text.isNumber_iff year).mp four.1).2
  have leads : leadsWithYear separator (year ++ separator :: rest) = true := by
    have front : (year ++ separator :: rest).take 4 = year := List.take_left' four.2
    have next : (year ++ separator :: rest)[4]? = some separator := by
      simp [← four.2]
    simp [leadsWithYear, front, next, List.all_eq_true.mpr all]
  simp [separatedDate?, find?_separator known year rest all, leads]

theorem separatedDate?_short {first : Text} (rest : Text) (short : first.IsShort) :
    separatedDate? (first ++ separator :: rest) =
      (DateOrder.dayFirst.date? separator (first ++ separator :: rest)).or
        (DateOrder.monthFirst.date? separator (first ++ separator :: rest)) := by
  have all := ((Text.isNumber_iff first).mp short.1).2
  have sign : separator.isDigit = false := by
    simpa [Text.StopsDigits] using stopsDigits_separator known rest
  -- The separator is one of the first four characters.
  have leads : leadsWithYear separator (first ++ separator :: rest) = false := by
    have inside : separator ∈ (first ++ separator :: rest).take 4 := by
      rw [List.take_append]
      have room : 4 - first.length = (3 - first.length) + 1 := by
        have := short.2
        omega
      simp [room]
    rw [leadsWithYear, Bool.and_eq_false_iff]
    left
    rw [List.all_eq_false]
    exact ⟨separator, inside, by simp [sign]⟩
  simp [separatedDate?, find?_separator known first rest all, leads]

variable {first second year : Text} {m n : Nat}

theorem DateOrder.date?_yearFirst (four : year.IsYear) (month : Text.Figure 2 first m)
    (day : Text.Figure 2 second n) :
    DateOrder.yearFirst.date? separator (year ++ separator :: (first ++ separator :: second)) =
      Date.of? year.value m n := by
  have one := four.year? (stopsDigits_separator known (first ++ separator :: second))
  have two := month.number? (stopsDigits_separator known second)
  have three := day.number? Text.stopsDigits_nil
  rw [List.append_nil] at three
  simp [DateOrder.date?, one, two, three, Text.strip?_separator]

theorem DateOrder.date?_yearLast (one : Text.Figure 2 first m) (two : Text.Figure 2 second n)
    (four : year.IsYear) :
    DateOrder.dayFirst.date? separator (first ++ separator :: (second ++ separator :: year)) =
        Date.of? year.value n m ∧
      DateOrder.monthFirst.date? separator (first ++ separator :: (second ++ separator :: year)) =
        Date.of? year.value m n := by
  have front := one.number? (stopsDigits_separator known (second ++ separator :: year))
  have middle := two.number? (stopsDigits_separator known year)
  have back := four.year? Text.stopsDigits_nil
  rw [List.append_nil] at back
  simp [DateOrder.date?, front, middle, back, Text.strip?_separator]

end

theorem Date.read?_of_opensWithDigit (today : Date) (cs : Text) (opens : cs.OpensWithDigit) :
    read? today cs = separatedDate? cs.trim := by
  unfold read?
  split
  next distance word =>
    obtain ⟨c, first, digit⟩ := opens
    obtain ⟨before, after, table, _⟩ := List.lookup_eq_some_iff.mp word
    have letters := (dayWords_letters (cs.trim.asciiLower, distance) (by simp [table])).2
    have member : c ∈ cs.trim.asciiLower := by
      rw [← Text.opening?_trim, Text.opening?, ← Text.unspaced_asciiLower] at first
      exact List.mem_of_mem_filter (List.mem_of_mem_head? first)
    have other := List.all_eq_true.mp letters c member
    simp [digit] at other
  next => rfl

theorem Text.framed_of_numbers {front middle back : Text} (first : front.isNumber = true)
    (last : back.isNumber = true) : (front ++ middle ++ back).Framed := by
  obtain ⟨nonempty, digits⟩ := (isNumber_iff front).mp first
  obtain ⟨nonempty', digits'⟩ := (isNumber_iff back).mp last
  obtain ⟨c, front, rfl⟩ := List.exists_cons_of_ne_nil nonempty
  apply framed_cons c _ (isBlank_of_isDigit c (digits c List.mem_cons_self))
  intro d ends
  change d ∈ (front ++ middle ++ back).getLast? at ends
  rw [List.getLast?_append_of_ne_nil _ nonempty'] at ends
  exact isBlank_of_isDigit d (digits' d (List.mem_of_getLast? ends))

section

variable {separator : Char} (known : isDateSeparator separator = true) (today : Date)
  {first second year : Text}

include known

theorem Date.read?_yearFirst {m n : Nat} (four : year.IsYear) (month : Text.Figure 2 first m)
    (day : Text.Figure 2 second n) (trail : Text) (after : trail.all isBlank = true) :
    read? today (year ++ separator :: (first ++ separator :: second) ++ trail) =
      of? year.value m n := by
  have order := DateOrder.date?_yearFirst known four month day
  have framed : (year ++ separator :: (first ++ separator :: second)).Framed := by
    obtain ⟨gap, digits, _, number, _⟩ := day
    have numbers : (year ++ (separator :: (first ++ separator :: gap)) ++ digits).Framed :=
      Text.framed_of_numbers four.1 number
    simpa using numbers
  have trimmed := framed.trim_between [] trail rfl after
  rw [List.nil_append] at trimmed
  have opens : (year ++ separator :: (first ++ separator :: second) ++ trail).OpensWithDigit := by
    rw [List.append_assoc]
    exact Text.opensWithDigit_number year _ four.1
  rw [read?_of_opensWithDigit today _ opens, trimmed, separatedDate?_year known _ four, order]

theorem Date.read?_yearLast (one : first.IsShort) (two : second.IsShort) (four : year.IsYear) :
    read? today (first ++ separator :: (second ++ separator :: year)) =
      (of? year.value second.value first.value).or (of? year.value first.value second.value) := by
  obtain ⟨day, month⟩ := DateOrder.date?_yearLast known one.figure two.figure four
  have framed : (first ++ separator :: (second ++ separator :: year)).Framed := by
    have numbers : (first ++ (separator :: (second ++ [separator])) ++ year).Framed :=
      Text.framed_of_numbers one.1 four.1
    simpa using numbers
  rw [read?_of_opensWithDigit today _ (Text.opensWithDigit_number first _ one.1), framed.trim,
    separatedDate?_short known _ one, day, month]

theorem Date.read?_year_iff (four : year.IsYear) (rest : Text) (date : Date) :
    read? today (year ++ separator :: rest) = some date ↔
      ∃ month day trail, rest = month ++ separator :: (day ++ trail) ∧
        Text.Figure 2 month date.month ∧ Text.Figure 2 day date.day ∧
        trail.all isBlank = true ∧ date.year = year.value := by
  constructor
  · intro found
    obtain ⟨kept, trail, rfl, after, visible⟩ := Text.exists_visible_end rest
    have framed : (year ++ separator :: kept).Framed := by
      have sign := isBlank_of_isDateSeparator separator known
      obtain ⟨nonempty, digits⟩ := (Text.isNumber_iff year).mp four.1
      obtain ⟨c, front, rfl⟩ := List.exists_cons_of_ne_nil nonempty
      exact (Text.framed_cons separator kept sign visible).append (c :: front)
        ⟨c, rfl, isBlank_of_isDigit c (digits c List.mem_cons_self)⟩
    have trimmed := framed.trim_between [] trail rfl after
    have opens := Text.opensWithDigit_number year (separator :: (kept ++ trail)) four.1
    rw [List.nil_append, List.append_assoc, List.cons_append] at trimmed
    rw [read?_of_opensWithDigit today _ opens, trimmed, separatedDate?_year known _ four] at found
    have one := four.year? (stopsDigits_separator known kept)
    simp only [DateOrder.date?, one, Text.strip?_separator, Option.bind_eq_bind, Option.bind_some,
      Option.bind_eq_some_iff] at found
    obtain ⟨⟨m, _⟩, two, behind, dash, ⟨n, _⟩, three, ends⟩ := found
    rw [Option.ite_none_right_eq_some] at ends
    obtain ⟨rfl, exact⟩ := ends
    obtain ⟨month, monthFigure, rfl⟩ := Text.exists_figure two
    obtain ⟨day, dayFigure, rfl⟩ := Text.exists_figure three
    rw [Text.strip?_eq_some] at dash
    dsimp only at dash exact
    subst dash
    obtain ⟨sameYear, rfl, rfl⟩ := (of?_eq_some _ _ _ date).mp exact
    exact ⟨month, day, trail, by simp, monthFigure, dayFigure, after, sameYear⟩
  · rintro ⟨month, day, trail, rfl, monthFigure, dayFigure, after, sameYear⟩
    have whole := read?_yearFirst known today four monthFigure dayFigure trail after
    rw [(of?_eq_some _ _ _ date).mpr ⟨sameYear, rfl, rfl⟩] at whole
    simpa using whole

end

theorem Date.of?_monthFirst {year : Int} {day month : Nat} {date : Date}
    (noDay : of? year month day = none) (swapped : of? year day month = some date) :
    12 < month := by
  have valid := (exists_of? year day month).mp ⟨date, swapped⟩
  by_contra small
  -- A day that can be a month is no later than the twelfth, and every month has that many days.
  have long : 28 ≤ monthLength year month := by
    unfold monthLength
    split
    next => split <;> decide
    all_goals decide
  have dayLe := valid.month_le
  have real : OnCalendar year month day :=
    ⟨valid.year_ge, valid.year_le, valid.day_ge, by omega, valid.month_ge, by omega⟩
  obtain ⟨other, found⟩ := (exists_of? year month day).mpr real
  rw [noDay] at found
  cases found

theorem Text.join_three (separator : Char) (first second third : Text) :
    join [separator] [first, second, third] =
      first ++ separator :: (second ++ separator :: third) := by
  simp [join, List.intercalate]

theorem Date.read?_written {separator : Char} (known : isDateSeparator separator = true)
    (today : Date) {date : Date} {month day : Text} (positive : 0 ≤ date.year)
    (monthSpelled : month ∈ Text.spellings date.month) (daySpelled : day ∈ Text.spellings date.day) :
    read? today (Text.join [separator] [Text.padded 4 date.year.toNat, month, day]) = some date ∧
      read? today (Text.join [separator] [day, month, Text.padded 4 date.year.toNat]) =
        some date := by
  have valid := date.valid
  have fourDigits : date.year.toNat ≤ 9999 := by
    have := valid.year_le
    omega
  have year := Text.IsYear.of_padded fourDigits
  have dayLe := valid.day_le.trans (monthLength_le date.year date.month)
  obtain ⟨monthShort, monthValue⟩ :=
    Text.isShort_of_spelling (valid.month_le.trans (by decide)) monthSpelled
  obtain ⟨dayShort, dayValue⟩ := Text.isShort_of_spelling (dayLe.trans (by decide)) daySpelled
  have same : of? (Text.padded 4 date.year.toNat).value month.value day.value = some date := by
    rw [of?_eq_some, Text.value_padded, monthValue, dayValue]
    exact ⟨by omega, rfl, rfl⟩
  have first := read?_yearFirst known today year monthShort.figure dayShort.figure [] rfl
  have last := read?_yearLast known today dayShort monthShort year
  rw [List.append_nil] at first
  rw [Text.join_three, Text.join_three, first, last, same]
  exact ⟨rfl, rfl⟩

theorem isDateSeparator_of_mem {separator : Char} (known : separator ∈ ['-', '/', '.']) :
    isDateSeparator separator = true := by
  simpa [isDateSeparator, or_assoc] using known

/-- A date in numbers reads back in both orders. Of a text that leads with two short numbers the
first is the day and the second the month; the other way is taken only if the second number is no
month. A text that leads with a year is read in that order alone. -/
theorem Date.absolute_dates_read_back (today : Date) (separator : Char)
    (known : separator ∈ ['-', '/', '.']) :
    (∀ date : Date, 0 ≤ date.year → ∀ month ∈ Text.spellings date.month,
      ∀ day ∈ Text.spellings date.day,
        read? today (Text.join [separator] [Text.padded 4 date.year.toNat, month, day]) = some date ∧
        read? today (Text.join [separator] [day, month, Text.padded 4 date.year.toNat]) =
          some date) ∧
    (∀ first second year : Text, first.IsShort → second.IsShort → year.IsYear →
      read? today (Text.join [separator] [first, second, year]) =
          (of? year.value second.value first.value).or (of? year.value first.value second.value) ∧
        ∀ date, read? today (Text.join [separator] [first, second, year]) = some date →
          date.day = first.value ∧ date.month = second.value ∨
            12 < second.value ∧ date.day = second.value ∧ date.month = first.value) ∧
    ∀ year rest : Text, year.IsYear → ∀ date,
      read? today (year ++ separator :: rest) = some date ↔
        ∃ month day trail, rest = month ++ separator :: (day ++ trail) ∧
          Text.Figure 2 month date.month ∧ Text.Figure 2 day date.day ∧
          trail.all isBlank = true ∧ date.year = year.value := by
  replace known := isDateSeparator_of_mem known
  refine ⟨?_, ?_, fun year rest four => read?_year_iff known today four rest⟩
  · intro date positive month monthSpelled day daySpelled
    exact read?_written known today positive monthSpelled daySpelled
  · intro first second year one two four
    have read := read?_yearLast known today one two four
    rw [Text.join_three, read]
    refine ⟨rfl, ?_⟩
    intro date found
    rcases Option.or_eq_some_iff.mp found with dayFirst | ⟨noDay, monthFirst⟩
    · obtain ⟨_, month, day⟩ := (of?_eq_some _ _ _ date).mp dayFirst
      exact .inl ⟨day, month⟩
    · obtain ⟨_, month, day⟩ := (of?_eq_some _ _ _ date).mp monthFirst
      exact .inr ⟨of?_monthFirst noDay monthFirst, day, month⟩

def leapDay : Date :=
  ⟨2024, 2, 29, by decide⟩

theorem leapDay_reads_back :
    '/' ∈ ['-', '/', '.'] ∧ 0 ≤ leapDay.year ∧ Text.ofString "02" ∈ Text.spellings leapDay.month ∧
      Text.ofString "29" ∈ Text.spellings leapDay.day ∧
      Date.read? leapDay (Text.join ['/'] ["29", "02", Text.padded 4 leapDay.year.toNat]) =
        some leapDay ∧
      Text.IsShort "2" ∧ Text.IsShort "30" ∧ Text.IsYear "2024" ∧
      Date.read? leapDay (Text.join ['/'] ["30", "2", "2024"]) = none ∧
      Text.Figure 2 " 2" leapDay.month ∧ Text.Figure 2 "29" leapDay.day ∧
      Date.read? leapDay (Text.ofString "2024" ++ '/' :: Text.ofString " 2/29\n") = some leapDay := by
  have slash : '/' ∈ ['-', '/', '.'] := by simp
  have positive : 0 ≤ leapDay.year := by decide
  have month : Text.ofString "02" ∈ Text.spellings leapDay.month :=
    List.mem_pair.mpr (.inr (by with_unfolding_all rfl))
  have day : Text.ofString "29" ∈ Text.spellings leapDay.day :=
    List.mem_pair.mpr (.inl (by with_unfolding_all rfl))
  have two : Text.IsShort "2" := by
    rw [Text.ofString_eq]
    exact ⟨by decide, by decide⟩
  have thirty : Text.IsShort "30" := by
    rw [Text.ofString_eq]
    exact ⟨by decide, by decide⟩
  have year : Text.IsYear "2024" := by
    rw [Text.ofString_eq]
    exact ⟨by decide, by decide⟩
  have spaced : Text.Figure 2 " 2" leapDay.month := by
    have shape : (" 2" : Text) = [' '] ++ ['2'] := Text.ofString_eq " 2"
    rw [shape]
    exact .intro [' '] ['2'] (by decide) (by decide) (by decide)
  have plain : Text.Figure 2 "29" leapDay.day := by
    rw [Text.ofString_eq]
    exact .intro [] ['2', '9'] (by decide) (by decide) (by decide)
  obtain ⟨spelled, pairs, led⟩ := Date.absolute_dates_read_back leapDay '/' slash
  have swapped := (pairs "30" "2" "2024" thirty two year).1
  have behind : Text.ofString " 2/29\n" =
      Text.ofString " 2" ++ '/' :: (Text.ofString "29" ++ ['\n']) := by
    simp [Text.ofString_eq]
  refine ⟨slash, positive, month, day, (spelled leapDay positive _ month _ day).2, two, thirty, year,
    ?_, spaced, plain, ?_⟩
  · rw [swapped]
    with_unfolding_all rfl
  · rw [led "2024" " 2/29\n" year leapDay]
    exact ⟨" 2", "29", ['\n'], behind, spaced, plain, by decide, by with_unfolding_all rfl⟩

end TaskQuery
