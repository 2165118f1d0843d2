import TaskQuery.DateField.Grammar
import TaskQuery.Proofs.Calendar.NumberedPeriod

set_option autoImplicit false

namespace TaskQuery

def DateRange.resolve? (today : Date) (text : Text) : Option DateRange :=
  (DateRange.read? today text).or ((Date.read? today text).map .single)

theorem trim_dropSpace (cs : Text) : (dropSpace cs).trim = cs.trim := by
  unfold dropSpace
  split
  next cs => rfl
  next => rfl

@[simp] theorem DateRange.read?_dropSpace (today : Date) (cs : Text) :
    DateRange.read? today (dropSpace cs) = DateRange.read? today cs := by
  simp only [DateRange.read?, trim_dropSpace]

@[simp] theorem Date.read?_dropSpace (today : Date) (cs : Text) :
    Date.read? today (dropSpace cs) = Date.read? today cs := by
  simp only [Date.read?, trim_dropSpace]

@[simp] theorem DateRange.resolve?_dropSpace (today : Date) (cs : Text) :
    resolve? today (dropSpace cs) = resolve? today cs := by
  simp [resolve?]

def dateInitials : List Char := ['l', 'n', 'p', 't', 'y']

def dateFinals : List Char := ['h', 'k', 'r', 'w', 'y']

structure Text.DateShaped (cs : Text) : Prop where
  opens : ∃ c, cs.opening? = some c ∧ (c.isDigit = true ∨ c ∈ dateInitials)
  closes : ∃ c, cs.closing? = some c ∧ (c.isDigit = true ∨ c ∈ dateFinals)

namespace Text

theorem OpensWithDigit.dateShaped {cs : Text} (opens : cs.OpensWithDigit)
    (closes : cs.EndsWithDigit) : cs.DateShaped := by
  obtain ⟨first, opens, digit⟩ := opens
  obtain ⟨last, closes, final⟩ := closes
  exact ⟨⟨first, opens, .inl digit⟩, ⟨last, closes, .inl final⟩⟩

theorem DateShaped.of_trim {cs : Text} (shaped : cs.trim.DateShaped) : cs.DateShaped := by
  obtain ⟨opens, closes⟩ := shaped
  rw [opening?_trim] at opens
  rw [closing?_trim] at closes
  exact ⟨opens, closes⟩

theorem DateShaped.join {front back cs : Text} (first : front.DateShaped) (last : back.DateShaped)
    (lead : front <+: cs) (suffix : back <:+ cs) : cs.DateShaped := by
  obtain ⟨c, opens, initial⟩ := first.opens
  obtain ⟨d, closes, final⟩ := last.closes
  obtain ⟨rest, rfl⟩ := lead
  obtain ⟨before, shape⟩ := suffix
  refine ⟨⟨c, opening?_append front rest c opens, initial⟩, ⟨d, ?_, final⟩⟩
  rw [← shape]
  exact closing?_append before back d closes

theorem dateShaped_of_letters (cs letters : Text) (shape : cs.unspaced.asciiLower = letters)
    (initial : letters.head?.any (· ∈ dateInitials) = true)
    (final : letters.getLast?.any (· ∈ dateFinals) = true) : cs.DateShaped := by
  obtain ⟨first, opens, initial⟩ := (Option.any_eq_true _ _).mp initial
  obtain ⟨last, closes, final⟩ := (Option.any_eq_true _ _).mp final
  rw [← shape] at opens closes
  exact ⟨⟨first, opens, .inr (by simpa using initial)⟩, ⟨last, closes, .inr (by simpa using final)⟩⟩

end Text

theorem dayWords_dateShaped : ∀ entry ∈ dayWords,
    entry.1.head?.any (· ∈ dateInitials) = true ∧
      entry.1.getLast?.any (· ∈ dateFinals) = true := by
  simp only [dayWords, Text.ofString_eq]
  decide

theorem Date.read?_dateShaped (today date : Date) (cs : Text)
    (found : Date.read? today cs = some date) : cs.DateShaped := by
  rcases Date.read?_shape today date cs found with ⟨entry, member, letters⟩ | ⟨_, opens, closes⟩
  · obtain ⟨initial, final⟩ := dayWords_dateShaped entry member
    exact Text.dateShaped_of_letters cs entry.1 letters initial final
  · exact Text.OpensWithDigit.dateShaped opens closes

theorem relativePeriods_dateShaped : ∀ word ∈ relativeWords, ∀ unit : CalendarUnit,
    (word ++ unit.word).head?.any (· ∈ dateInitials) = true ∧
      (word ++ unit.word).getLast?.any (· ∈ dateFinals) = true := by
  intro word member unit
  revert word
  cases unit <;>
    simp only [relativeWords, periodWords, CalendarUnit.word, List.map_cons, List.map_nil,
      Text.ofString_eq] <;>
    decide

theorem relativePeriod?_dateShaped (today : Date) (cs : Text) (range : DateRange)
    (found : relativePeriod? today cs = some range) : cs.DateShaped := by
  obtain ⟨word, member, unit, letters⟩ := relativePeriod?_shape today cs range found
  obtain ⟨initial, final⟩ := relativePeriods_dateShaped word member unit
  exact Text.dateShaped_of_letters cs _ letters initial final

theorem numberedPeriod?_dateShaped (cs : Text) (range : DateRange)
    (found : numberedPeriod? cs = some range) : cs.DateShaped := by
  obtain ⟨period, written⟩ := exists_written cs range found
  exact written.visible.1.dateShaped written.endsWithDigit

theorem explicitRange?_dateShaped (today : Date) (cs : Text) (range : DateRange)
    (found : explicitRange? today cs = some range) : cs.DateShaped := by
  simp only [explicitRange?, Option.bind_eq_bind, Option.bind_eq_some_iff] at found
  obtain ⟨⟨first, second⟩, split, opening, front, closing, back, _⟩ := found
  obtain ⟨rest, lead⟩ := splitRange?_prefix cs first second split
  exact (Date.read?_dateShaped today opening first front).join
    (Date.read?_dateShaped today closing second back) ⟨rest, lead.symm⟩
    (splitRange?_suffix cs first second split)

theorem DateRange.read?_dateShaped (today : Date) (cs : Text) (range : DateRange)
    (found : DateRange.read? today cs = some range) : cs.DateShaped := by
  apply Text.DateShaped.of_trim
  rcases Option.or_eq_some_iff.mp found with relative | ⟨_, found⟩
  · exact relativePeriod?_dateShaped today cs.trim range relative
  rcases Option.or_eq_some_iff.mp found with numbered | ⟨_, explicit⟩
  · exact numberedPeriod?_dateShaped cs.trim range numbered
  · exact explicitRange?_dateShaped today cs.trim range explicit

theorem DateRange.resolve?_dateShaped (today : Date) (cs : Text) (range : DateRange)
    (found : resolve? today cs = some range) : cs.DateShaped := by
  rcases Option.or_eq_some_iff.mp found with whole | ⟨_, day⟩
  · exact DateRange.read?_dateShaped today cs range whole
  · obtain ⟨date, day, _⟩ := Option.map_eq_some_iff.mp day
    exact Date.read?_dateShaped today date cs day

def keywordInitials : List Char := ['a', 'b', 'i', 'o']

def Text.OpensDate (cs : Text) : Prop :=
  ∃ c, opening? cs = some c ∧ c ∉ keywordInitials

theorem Text.DateShaped.opens_apart {cs : Text} (shaped : cs.DateShaped) (letters : List Char)
    (apart : ∀ c ∈ letters, c.isDigit = false ∧ c ∉ dateInitials) :
    ∃ c, cs.opening? = some c ∧ c ∉ letters := by
  obtain ⟨c, opens, initial⟩ := shaped.opens
  refine ⟨c, opens, ?_⟩
  intro member
  obtain ⟨letter, other⟩ := apart c member
  rcases initial with digit | initial
  · rw [letter] at digit
    cases digit
  · exact other initial

theorem Text.DateShaped.opensDate {cs : Text} (shaped : cs.DateShaped) : cs.OpensDate :=
  shaped.opens_apart keywordInitials (by simp [keywordInitials, dateInitials])

theorem DateRange.read?_opensDate (today : Date) (cs : Text) (range : DateRange)
    (found : DateRange.read? today cs = some range) : cs.OpensDate :=
  (DateRange.read?_dateShaped today cs range found).opensDate

theorem DateRange.resolve?_opensDate (today : Date) (text : Text) (range : DateRange)
    (found : resolve? today text = some range) : text.OpensDate :=
  (DateRange.resolve?_dateShaped today text range found).opensDate

end TaskQuery
