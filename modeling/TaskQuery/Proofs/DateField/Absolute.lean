import TaskQuery.Proofs.DateField.DateGrammar

set_option autoImplicit false

namespace TaskQuery

def clockWords : List Text :=
  ["today", "yesterday", "tomorrow", "last", "this", "next", "past"]

/-- A text in whose letters none of these words stands, blanks and case aside. -/
def Text.Absolute (cs : Text) : Prop :=
  ∀ word ∈ clockWords, ¬ word <:+: cs.unspaced.asciiLower

namespace Text.Absolute

variable {cs : Text} (absolute : cs.Absolute)

include absolute

theorem of_infix {part : Text} (inside : part <:+: cs) : part.Absolute := by
  intro word known found
  exact absolute word known (found.trans ((inside.filter _).map _))

theorem trim : cs.trim.Absolute := by
  rwa [Text.Absolute, unspaced_trim]

theorem not_dayWord : dayWords.lookup cs.trim.asciiLower = none := by
  rw [Option.eq_none_iff_forall_ne_some]
  intro distance found
  obtain ⟨before, after, table, _⟩ := List.lookup_eq_some_iff.mp found
  have member : (cs.trim.asciiLower, distance) ∈ dayWords := by simp [table]
  have known : ∀ entry ∈ dayWords, entry.1 ∈ clockWords ∧ unspaced entry.1 = entry.1 := by
    simp only [dayWords, clockWords, Text.ofString_eq]
    decide
  obtain ⟨clock, whole⟩ := known _ member
  rw [unspaced_asciiLower] at whole
  exact absolute.trim _ clock (whole ▸ List.infix_rfl)

theorem not_relative (today : Date) : relativePeriod? today cs = none := by
  rw [Option.eq_none_iff_forall_ne_some]
  intro range found
  obtain ⟨word, member, unit, letters⟩ := relativePeriod?_shape today cs range found
  have known : ∀ word ∈ relativeWords, word ∈ clockWords := by
    simp only [relativeWords, periodWords, clockWords, List.map_cons, List.map_nil,
      Text.ofString_eq]
    decide
  apply absolute word (known word member)
  rw [letters]
  exact (List.prefix_append word unit.word).isInfix

end Text.Absolute

section

variable {cs : Text} (today other : Date) (absolute : cs.Absolute)

include absolute

theorem Date.read?_absolute : Date.read? today cs = Date.read? other cs := by
  simp only [Date.read?, absolute.not_dayWord]

theorem explicitRange?_absolute : explicitRange? today cs = explicitRange? other cs := by
  unfold explicitRange?
  cases split : splitRange? cs with
  | none => rfl
  | some halves =>
    obtain ⟨first, second⟩ := halves
    obtain ⟨rest, shape⟩ := splitRange?_prefix cs first second split
    have front : first <+: cs := ⟨rest, shape.symm⟩
    have back := splitRange?_suffix cs first second split
    simp only [Option.bind_eq_bind, Option.bind_some,
      Date.read?_absolute today other (absolute.of_infix front.isInfix),
      Date.read?_absolute today other (absolute.of_infix back.isInfix)]

theorem DateRange.read?_absolute : DateRange.read? today cs = DateRange.read? other cs := by
  simp only [DateRange.read?, absolute.trim.not_relative,
    explicitRange?_absolute today other absolute.trim]

end

namespace DateField

variable (name : Text) (today other : Date) (dates : Task → List Date) (count : Task → Nat)

theorem dateOf?_absolute {cs : Text} (absolute : cs.Absolute) :
    (mk name today dates count).dateOf? cs = (mk name other dates count).dateOf? cs := by
  unfold dateOf?
  cases keyword : dateKeyword? cs with
  | none =>
    simp only [day?, Date.read?_dropSpace, Date.read?_absolute today other absolute,
      DateRange.read?_absolute today other absolute]
  | some found =>
    obtain ⟨relation, rest⟩ := found
    obtain ⟨spelling, _, shape⟩ := dateKeyword?_eq_some keyword
    have back : rest <:+ cs := ⟨spelling, shape.symm⟩
    have behind := absolute.of_infix back.isInfix
    simp only [day?, Date.read?_dropSpace, DateRange.read?_dropSpace,
      Date.read?_absolute today other behind, DateRange.read?_absolute today other behind,
      DateRange.read?_absolute today other absolute]

theorem date?_absolute {line : Text}
    (absolute : ∀ rest, (mk name today dates count).Names line rest → rest.Absolute) :
    (mk name today dates count).date? line = (mk name other dates count).date? line := by
  unfold date?
  cases found : (name ++ " ").stripCaseless? line with
  | none => rfl
  | some rest =>
    have behind := absolute rest ((names_iff _ _ _).mp found)
    have front := behind.of_infix (List.takeWhile_prefix (· ≠ '\n')).isInfix
    simp only [Option.bind_eq_bind, Option.bind_some,
      dateOf?_absolute name today other dates count front]

/-- Of a line that names no day or period by its distance from today, the same is made on every
day. -/
theorem compile_absolute (line : Text)
    (absolute : ∀ rest, (mk name today dates count).Names line rest → rest.Absolute) :
    (mk name today dates count).compile line = (mk name other dates count).compile line := by
  have date := date?_absolute name today other dates count absolute
  have read : (mk name today dates count).read? line = (mk name other dates count).read? line := by
    rw [DateField.read?, DateField.read?, date]
    rfl
  rw [compile, compile, read]
  rfl

end DateField

theorem marchField_compiles_at_yearEnd :
    (∀ rest, marchField.Names "Top3 in or after 31.1.2024 to 2024-02-05" rest → rest.Absolute) ∧
      ∃ filter, marchField.compile "Top3 in or after 31.1.2024 to 2024-02-05" = .ok filter ∧
        (DateField.top3 ⟨2024, 12, 31, by decide⟩).compile
          "Top3 in or after 31.1.2024 to 2024-02-05" = .ok filter := by
  have absolute : ∀ rest, marchField.Names "Top3 in or after 31.1.2024 to 2024-02-05" rest →
      rest.Absolute := by
    intro rest names
    have found := (marchField.names_iff _ _).mpr names
    have behind : (marchField.name ++ " ").stripCaseless?
        "Top3 in or after 31.1.2024 to 2024-02-05" =
          some "in or after 31.1.2024 to 2024-02-05" := by
      with_unfolding_all rfl
    rw [behind] at found
    cases found
    have letters : (Text.unspaced "in or after 31.1.2024 to 2024-02-05").asciiLower =
        "inorafter31.1.2024to2024-02-05" := by
      with_unfolding_all rfl
    rw [Text.Absolute, letters]
    simp [clockWords, Text.ofString_eq, List.infix_cons_iff]
  obtain ⟨filter, compiled⟩ : ∃ filter,
      marchField.compile "Top3 in or after 31.1.2024 to 2024-02-05" = .ok filter :=
    ⟨_, by with_unfolding_all rfl⟩
  refine ⟨absolute, filter, compiled, ?_⟩
  rw [← compiled]
  exact (DateField.compile_absolute "top3" _ _ _ _ _ absolute).symm

end TaskQuery
