import Mathlib.Data.List.TakeWhile
import TaskQuery.Calendar.Reading
import TaskQuery.Proofs.Text.Blank

set_option autoImplicit false

namespace TaskQuery

theorem isBlank_of_isAsciiBlank (c : Char) (blank : isAsciiBlank c = true) :
    isBlank c = true := by
  simp only [isAsciiBlank, Bool.or_eq_true, beq_iff_eq] at blank
  rcases blank with (((rfl | rfl) | rfl) | rfl) | rfl <;> decide

theorem isBlank_of_isDateSeparator (c : Char) (separator : isDateSeparator c = true) :
    isBlank c = false := by
  simp only [isDateSeparator, Bool.or_eq_true, beq_iff_eq] at separator
  rcases separator with (rfl | rfl) | rfl <;> decide

theorem isDateSeparator_toLower (c : Char) : isDateSeparator c.toLower = isDateSeparator c := by
  cases ascii : isAscii c with
  | true =>
    exact of_ascii_codes (fun c => isDateSeparator c.toLower = isDateSeparator c) (by decide) c
      ascii
  | false => rw [toLower_of_not_ascii c ascii]

theorem isBlank_of_isDigit (c : Char) (digit : c.isDigit = true) : isBlank c = false := by
  have small : c.toNat ≤ 57 := by
    simp only [Char.isDigit, Bool.and_eq_true, decide_eq_true_eq] at digit
    exact digit.2
  have ascii : isAscii c = true := by
    simp only [isAscii, decide_eq_true_eq]
    omega
  exact of_ascii_codes (fun c => c.isDigit = true → isBlank c = false) (by decide) c ascii digit

namespace Text

def OpensWithDigit (cs : Text) : Prop :=
  ∃ c, opening? cs = some c ∧ c.isDigit = true

theorem opensWithDigit_cons (c : Char) (cs : Text) (digit : c.isDigit = true) :
    OpensWithDigit (c :: cs) :=
  ⟨c.toLower, opening?_cons c cs (isBlank_of_isDigit c digit), by rwa [isDigit_toLower]⟩

theorem opensWithDigit_number? (width : Nat) (cs : Text) (read : Nat × Text)
    (found : cs.number? width = some read) : OpensWithDigit cs := by
  unfold OpensWithDigit
  rw [← opening?_dropWhile isAsciiBlank isBlank_of_isAsciiBlank cs]
  unfold number? at found
  generalize cs.dropWhile isAsciiBlank = visible at found
  cases visible with
  | nil => simp at found
  | cons c rest =>
    by_cases digit : c.isDigit = true
    · exact opensWithDigit_cons c rest digit
    · cases width <;> simp [digit] at found

theorem opensWithDigit_digits? (count : Nat) (cs : Text) (read : Nat × Text)
    (found : cs.digits? (count + 1) = some read) : OpensWithDigit cs := by
  cases cs with
  | nil => simp [digits?] at found
  | cons c rest =>
    by_cases digit : c.isDigit = true
    · exact opensWithDigit_cons c rest digit
    · simp [digits?, digit] at found

theorem digits?_append (run rest : Text) (digits : run.isNumber = true) :
    (run ++ rest).digits? run.length = some (run.value, rest) := by
  simp only [isNumber, Bool.and_eq_true] at digits
  simp [digits?, digits.2]

theorem digits?_eq_some (count : Nat) (cs rest : Text) (n : Nat)
    (found : cs.digits? count = some (n, rest)) :
    ∃ run, cs = run ++ rest ∧ run.length = count ∧ (∀ c ∈ run, c.isDigit = true) ∧
      n = value run := by
  simp only [digits?, Option.ite_none_right_eq_some, Option.some.injEq, Prod.mk.injEq,
    List.all_eq_true] at found
  obtain ⟨⟨length, digits⟩, rfl, rfl⟩ := found
  exact ⟨cs.take count, (List.take_append_drop count cs).symm, length, digits, rfl⟩

def EndsWithDigit (cs : Text) : Prop :=
  ∃ c, closing? cs = some c ∧ c.isDigit = true

theorem EndsWithDigit.append (front : Text) {back : Text} (ends : EndsWithDigit back) :
    EndsWithDigit (front ++ back) := by
  obtain ⟨c, last, digit⟩ := ends
  exact ⟨c, closing?_append front back c last, digit⟩

theorem EndsWithDigit.of_suffix {back cs : Text} (ends : EndsWithDigit back)
    (suffix : back <:+ cs) : EndsWithDigit cs := by
  obtain ⟨front, rfl⟩ := suffix
  exact ends.append front

theorem endsWithDigit_digits (digits : Text) (nonempty : digits ≠ [])
    (all : ∀ c ∈ digits, c.isDigit = true) : EndsWithDigit digits := by
  obtain ⟨last, front, rfl⟩ : ∃ last front, digits = front ++ [last] :=
    ⟨_, _, (List.dropLast_concat_getLast nonempty).symm⟩
  have digit := all last (by simp)
  exact ⟨last.toLower, closing?_concat front last (isBlank_of_isDigit last digit),
    by rwa [isDigit_toLower]⟩

theorem number?_eq_some (width : Nat) (cs rest : Text) (n : Nat)
    (found : cs.number? width = some (n, rest)) :
    ∃ gap digits, cs = gap ++ digits ++ rest ∧ (∀ c ∈ gap, isAsciiBlank c = true) ∧
      digits ≠ [] ∧ (∀ c ∈ digits, c.isDigit = true) ∧ digits.length ≤ width ∧
      n = value digits := by
  have whole := List.takeWhile_append_dropWhile (p := isAsciiBlank) (l := cs)
  unfold number? at found
  generalize cs.dropWhile isAsciiBlank = visible at found whole
  simp only [Option.ite_none_left_eq_some, Option.some.injEq, Prod.mk.injEq] at found
  obtain ⟨nonempty, rfl, rfl⟩ := found
  refine ⟨cs.takeWhile isAsciiBlank, (visible.take width).takeWhile Char.isDigit, ?_, ?_, nonempty,
    ?_, ?_, rfl⟩
  · have front : (visible.take width).takeWhile Char.isDigit <+: visible :=
      (List.takeWhile_prefix _).trans (List.take_prefix _ _)
    rw [List.append_assoc, List.prefix_iff_eq_append.mp front, whole]
  · intro c member
    exact List.mem_takeWhile_imp member
  · intro c member
    exact List.mem_takeWhile_imp member
  · exact le_trans (List.takeWhile_prefix _).length_le (List.length_take_le _ _)

theorem number?_endsWithDigit (width : Nat) (cs : Text) (n : Nat)
    (found : cs.number? width = some (n, [])) : EndsWithDigit cs := by
  obtain ⟨gap, digits, rfl, _, nonempty, all, _⟩ := number?_eq_some width cs [] n found
  rw [List.append_nil]
  exact (endsWithDigit_digits digits nonempty all).append gap

theorem number?_suffix (width : Nat) (cs rest : Text) (n : Nat)
    (found : cs.number? width = some (n, rest)) : rest <:+ cs := by
  obtain ⟨gap, digits, rfl, _⟩ := number?_eq_some width cs rest n found
  exact List.suffix_append _ _

theorem year?_eq_some (cs rest : Text) (year : Int) (found : cs.year? = some (year, rest)) :
    ∃ sign digits n, cs = sign ++ digits ∧ digits.number? 4 = some (n, rest) ∧
      ((sign = ['-'] ∧ year = -n) ∨ ((sign = [] ∨ sign = ['+']) ∧ year = n)) := by
  unfold year? at found
  split at found
  all_goals
    simp only [Option.map_eq_some_iff, Prod.mk.injEq] at found
    obtain ⟨⟨n, behind⟩, digits, rfl, rfl⟩ := found
  next digitsText => exact ⟨['-'], digitsText, n, rfl, digits, .inl ⟨rfl, rfl⟩⟩
  next digitsText => exact ⟨['+'], digitsText, n, rfl, digits, .inr ⟨.inr rfl, rfl⟩⟩
  next => exact ⟨[], _, n, rfl, digits, .inr ⟨.inl rfl, rfl⟩⟩

theorem year?_endsWithDigit (cs : Text) (year : Int) (found : cs.year? = some (year, [])) :
    EndsWithDigit cs := by
  obtain ⟨sign, digits, n, rfl, read, _⟩ := year?_eq_some cs [] year found
  exact (number?_endsWithDigit 4 digits n read).append sign

theorem year?_suffix (cs rest : Text) (year : Int) (found : cs.year? = some (year, rest)) :
    rest <:+ cs := by
  obtain ⟨sign, digits, n, rfl, read, _⟩ := year?_eq_some cs rest year found
  exact (number?_suffix 4 digits rest n read).trans (List.suffix_append _ _)

theorem strip?_suffix (word cs rest : Text) (found : strip? word cs = some rest) :
    rest <:+ cs := by
  rw [(strip?_eq_some word cs rest).mp found]
  exact List.suffix_append _ _

theorem strip?_number?_suffix (word : Text) (width : Nat) (cs behind rest : Text) (n : Nat)
    (read : cs.number? width = some (n, behind)) (stripped : strip? word behind = some rest) :
    rest <:+ cs :=
  (strip?_suffix word behind rest stripped).trans (number?_suffix width cs behind n read)

end Text

theorem DateOrder.opensWithDigit (separator : Char) (order : DateOrder) (cs : Text) (date : Date)
    (leads : order = .yearFirst → leadsWithYear separator cs = true)
    (found : order.date? separator cs = some date) : cs.OpensWithDigit := by
  cases order with
  | yearFirst =>
    have year := leads rfl
    cases cs with
    | nil => simp [leadsWithYear] at year
    | cons c rest =>
      simp only [leadsWithYear, List.take_succ_cons, List.all_cons, Bool.and_eq_true] at year
      exact Text.opensWithDigit_cons c rest year.1.1
  | dayFirst =>
    simp only [date?, Option.bind_eq_bind, Option.bind_eq_some_iff] at found
    obtain ⟨read, first, _⟩ := found
    exact Text.opensWithDigit_number? 2 cs read first
  | monthFirst =>
    simp only [date?, Option.bind_eq_bind, Option.bind_eq_some_iff] at found
    obtain ⟨read, first, _⟩ := found
    exact Text.opensWithDigit_number? 2 cs read first

theorem DateOrder.endsWithDigit (separator : Char) (order : DateOrder) (cs : Text) (date : Date)
    (found : order.date? separator cs = some date) : cs.EndsWithDigit := by
  have nothing {rest : Text} {result : Option Date}
      (ends : (if rest = [] then result else none) = some date) : rest = [] := by
    by_contra more
    simp [more] at ends
  cases order <;> simp only [date?, Option.bind_eq_bind, Option.bind_eq_some_iff] at found <;>
    obtain ⟨⟨_, _⟩, first, _, dash, ⟨_, _⟩, second, _, hyphen, ⟨last, rest⟩, third, ends⟩ :=
      found <;>
    obtain rfl : rest = [] := nothing ends <;>
    have behind := Text.strip?_number?_suffix _ _ _ _ _ _ second hyphen
  case yearFirst =>
    have front := (Text.strip?_suffix _ _ _ dash).trans (Text.year?_suffix _ _ _ first)
    exact (Text.number?_endsWithDigit 2 _ last third).of_suffix (behind.trans front)
  case dayFirst =>
    have front := Text.strip?_number?_suffix _ _ _ _ _ _ first dash
    exact (Text.year?_endsWithDigit _ last third).of_suffix (behind.trans front)
  case monthFirst =>
    have front := Text.strip?_number?_suffix _ _ _ _ _ _ first dash
    exact (Text.year?_endsWithDigit _ last third).of_suffix (behind.trans front)

theorem DateOrder.digits (separator : Char) (order : DateOrder) (cs : Text) (date : Date)
    (leads : order = .yearFirst → leadsWithYear separator cs = true)
    (found : order.date? separator cs = some date) : cs.OpensWithDigit ∧ cs.EndsWithDigit :=
  ⟨order.opensWithDigit separator cs date leads found, order.endsWithDigit separator cs date found⟩

theorem separatedDate?_shape (cs : Text) (date : Date) (found : separatedDate? cs = some date) :
    (∃ c ∈ cs.unspaced, isDateSeparator c = true) ∧ cs.OpensWithDigit ∧ cs.EndsWithDigit := by
  simp only [separatedDate?, Option.bind_eq_bind, Option.bind_eq_some_iff] at found
  obtain ⟨separator, first, order⟩ := found
  have accepted := List.find?_some first
  have visible : separator ∈ cs.unspaced := by
    simp [Text.unspaced, List.mem_of_find?_eq_some first,
      isBlank_of_isDateSeparator separator accepted]
  refine ⟨⟨separator, visible, accepted⟩, ?_⟩
  split at order
  next leads => exact DateOrder.digits separator .yearFirst cs date (fun _ => leads) order
  next =>
    rcases Option.or_eq_some_iff.mp order with day | ⟨_, month⟩
    · exact DateOrder.digits separator .dayFirst cs date (by simp) day
    · exact DateOrder.digits separator .monthFirst cs date (by simp) month

theorem Date.exists_dayWord_or_separated {today date : Date} {cs : Text}
    (found : Date.read? today cs = some date) :
    (∃ entry ∈ dayWords, cs.trim.asciiLower = entry.1) ∨ separatedDate? cs.trim = some date := by
  unfold Date.read? at found
  split at found
  next distance word =>
    obtain ⟨before, after, table, _⟩ := List.lookup_eq_some_iff.mp word
    exact .inl ⟨(cs.trim.asciiLower, distance), by simp [table], rfl⟩
  next => exact .inr found

theorem Date.read?_shape (today date : Date) (cs : Text) (found : Date.read? today cs = some date) :
    (∃ entry ∈ dayWords, cs.unspaced.asciiLower = entry.1) ∨
      (∃ c ∈ cs.unspaced, isDateSeparator c = true) ∧ cs.OpensWithDigit ∧ cs.EndsWithDigit := by
  rcases exists_dayWord_or_separated found with ⟨entry, member, word⟩ | separated
  · left
    have unspaced : ∀ entry ∈ dayWords, Text.unspaced entry.1 = entry.1 := by
      simp only [dayWords, Text.ofString_eq]
      decide
    refine ⟨entry, member, ?_⟩
    rw [← unspaced _ member, ← word, Text.unspaced_asciiLower, Text.unspaced_trim]
  · right
    have shape := separatedDate?_shape cs.trim date separated
    rwa [Text.unspaced_trim, Text.OpensWithDigit, Text.opening?_trim, Text.EndsWithDigit,
      Text.closing?_trim] at shape

theorem splitRange?_prefix (cs first second : Text)
    (found : splitRange? cs = some (first, second)) : ∃ rest, cs = first ++ rest := by
  induction cs generalizing first with
  | nil => simp [splitRange?] at found
  | cons c cs ih =>
    simp only [splitRange?] at found
    split at found
    next =>
      simp only [Option.some.injEq, Prod.mk.injEq] at found
      exact ⟨c :: cs, by simp [← found.1]⟩
    next =>
      simp only [Option.map_eq_some_iff, Prod.mk.injEq] at found
      obtain ⟨⟨front, back⟩, split, rfl, rfl⟩ := found
      obtain ⟨rest, rfl⟩ := ih front split
      exact ⟨rest, rfl⟩

theorem explicitRange?_prefix (today : Date) (cs : Text) (range : DateRange)
    (found : explicitRange? today cs = some range) :
    ∃ first rest date, cs = first ++ rest ∧ Date.read? today first = some date := by
  simp only [explicitRange?, Option.bind_eq_bind, Option.bind_eq_some_iff] at found
  obtain ⟨⟨first, second⟩, split, date, front, _⟩ := found
  obtain ⟨rest, shape⟩ := splitRange?_prefix cs first second split
  exact ⟨first, rest, date, shape, front⟩

theorem behindSeparator?_visible (cs : Text)
    (visible : ∀ c ∈ cs, isBlank c = false ∧ c ≠ '.') : behindSeparator? cs = none := by
  have unspaced : cs.takeWhile isBlank = [] ∧ cs.dropWhile isBlank = cs := by
    cases cs with
    | nil => exact ⟨rfl, rfl⟩
    | cons c cs => simp [(visible c (by simp)).1]
  unfold behindSeparator?
  rw [unspaced.1, unspaced.2]
  split
  next rest => exact absurd rfl (visible '.' (by simp)).2
  all_goals simp

theorem splitRange?_visible (cs : Text) (visible : ∀ c ∈ cs, isBlank c = false ∧ c ≠ '.') :
    splitRange? cs = none := by
  induction cs with
  | nil => rfl
  | cons c cs ih =>
    simp [splitRange?, behindSeparator?_visible _ visible,
      ih fun d member => visible d (List.mem_cons_of_mem c member)]

def relativeWords : List Text :=
  "past" :: periodWords.map Prod.fst

theorem CalendarUnit.ofWord?_eq_some (word : Text) (unit : CalendarUnit)
    (found : ofWord? word = some unit) : word = unit.word := by
  have same := List.find?_some found
  exact (of_decide_eq_true same).symm

def Text.SpellsRelative (cs : Text) : Prop :=
  ∃ word ∈ relativeWords, ∃ unit : CalendarUnit, cs.unspaced.asciiLower = word ++ unit.word

theorem relativePeriod?_shape (today : Date) (cs : Text) (range : DateRange)
    (found : relativePeriod? today cs = some range) : cs.SpellsRelative := by
  simp only [relativePeriod?] at found
  split at found
  next distance rest front =>
    obtain ⟨entry, member, stripped⟩ := List.exists_of_findSome?_eq_some front
    obtain ⟨_, stripped, same⟩ := Option.map_eq_some_iff.mp stripped
    cases same
    obtain ⟨unit, meaning, _⟩ := Option.bind_eq_some_iff.mp found
    rw [CalendarUnit.ofWord?_eq_some rest unit meaning] at stripped
    exact ⟨entry.1, List.mem_cons_of_mem _ (List.mem_map_of_mem member), unit,
      (Text.strip?_eq_some _ _ _).mp stripped⟩
  next =>
    obtain ⟨rest, stripped, past⟩ := Option.bind_eq_some_iff.mp found
    obtain ⟨unit, meaning, _⟩ := Option.bind_eq_some_iff.mp past
    rw [CalendarUnit.ofWord?_eq_some rest unit meaning] at stripped
    exact ⟨"past", List.mem_cons_self, unit, (Text.strip?_eq_some _ _ _).mp stripped⟩

theorem relativeWords_apart : ∀ word ∈ relativeWords, ∀ unit : CalendarUnit,
    (∀ entry ∈ dayWords, ¬ entry.1 <+: word ++ unit.word) ∧
      (word ++ unit.word).all (fun c => !c.isDigit && !isDateSeparator c) = true := by
  -- No word for a day opens a relative period, and no character of a date in numbers is in one.
  intro word member unit
  revert word
  cases unit <;>
    simp only [relativeWords, periodWords, dayWords, CalendarUnit.word, List.map_cons,
      List.map_nil, Text.ofString_eq] <;>
    decide

theorem Text.SpellsRelative.not_opensWithDigit {cs : Text} (relative : cs.SpellsRelative) :
    ¬ cs.OpensWithDigit := by
  intro ⟨c, opens, digit⟩
  obtain ⟨word, member, unit, letters⟩ := relative
  rw [Text.opening?, letters] at opens
  have other := List.all_eq_true.mp (relativeWords_apart word member unit).2 c
    (List.mem_of_mem_head? opens)
  simp [digit] at other

theorem Text.SpellsRelative.no_day {front rest : Text} (today : Date)
    (relative : (front ++ rest).SpellsRelative) : Date.read? today front = none := by
  obtain ⟨word, member, unit, letters⟩ := relative
  obtain ⟨noWord, noCharacter⟩ := relativeWords_apart word member unit
  rw [Text.unspaced_append, Text.asciiLower_append] at letters
  rw [Option.eq_none_iff_forall_ne_some]
  intro date day
  rcases Date.read?_shape today date front day with
    ⟨entry, known, spelled⟩ | ⟨⟨c, visible, separator⟩, _⟩
  · apply noWord entry known
    rw [← letters, spelled]
    exact List.prefix_append _ _
  · have inside : c.toLower ∈ word ++ unit.word := by
      rw [← letters]
      exact List.mem_append_left _ (List.mem_map_of_mem visible)
    have other := List.all_eq_true.mp noCharacter c.toLower inside
    simp [isDateSeparator_toLower, separator] at other

theorem Text.SpellsRelative.not_explicit {cs : Text} (today : Date)
    (relative : cs.SpellsRelative) : explicitRange? today cs = none := by
  rw [Option.eq_none_iff_forall_ne_some]
  intro range found
  obtain ⟨front, rest, date, rfl, day⟩ := explicitRange?_prefix today cs range found
  rw [relative.no_day today] at day
  cases day

theorem relativePeriod?_of_opensWithDigit (today : Date) (cs : Text) (opens : cs.OpensWithDigit) :
    relativePeriod? today cs = none := by
  rw [Option.eq_none_iff_forall_ne_some]
  intro range found
  exact (relativePeriod?_shape today cs range found).not_opensWithDigit opens

theorem numberedPeriod?_opensWithDigit (cs : Text) (range : DateRange)
    (found : numberedPeriod? cs = some range) : cs.OpensWithDigit := by
  simp only [numberedPeriod?, Option.bind_eq_bind, Option.bind_eq_some_iff] at found
  obtain ⟨read, digits, _⟩ := found
  exact Text.opensWithDigit_digits? 3 cs read digits

theorem behindSeparator?_suffix (cs rest : Text) (found : behindSeparator? cs = some rest) :
    rest <:+ cs := by
  have whole : cs.dropWhile isBlank <:+ cs := List.dropWhile_suffix _
  have tail (front back : Text) (shape : cs.dropWhile isBlank = front ++ back) :
      Text.trimStart back <:+ cs := by
    rw [shape] at whole
    exact (List.dropWhile_suffix _).trans ((List.suffix_append front back).trans whole)
  unfold behindSeparator? at found
  dsimp only at found
  split at found
  next back shape =>
    cases found
    exact tail ['.', '.'] back shape
  next c back shape =>
    rw [Option.ite_none_right_eq_some, Option.some.injEq] at found
    rw [← found.2]
    exact tail ['-', c] back shape
  next t o c back _ _ shape =>
    rw [Option.ite_none_right_eq_some, Option.some.injEq] at found
    rw [← found.2]
    exact tail [t, o, c] back shape
  next => cases found

theorem splitRange?_suffix (cs first second : Text)
    (found : splitRange? cs = some (first, second)) : second <:+ cs := by
  induction cs generalizing first with
  | nil => simp [splitRange?] at found
  | cons c cs ih =>
    simp only [splitRange?] at found
    split at found
    next rest behind =>
      simp only [Option.some.injEq, Prod.mk.injEq] at found
      rw [← found.2]
      exact behindSeparator?_suffix (c :: cs) rest behind
    next =>
      simp only [Option.map_eq_some_iff, Prod.mk.injEq] at found
      obtain ⟨⟨front, back⟩, split, rfl, rfl⟩ := found
      exact (ih front split).trans (List.suffix_cons c cs)

end TaskQuery
