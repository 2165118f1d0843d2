import TaskQuery.Proofs.DateField.Resolution
import TaskQuery.Proofs.Text.Table

set_option autoImplicit false

namespace TaskQuery

theorem not_prefix_append {α : Type} {earlier later next rest : List α}
    (order : ¬ earlier <+: later ∧ (later <+: earlier → later ++ next <+: earlier))
    (ends : ¬ next <+: rest) : ¬ earlier <+: later ++ rest := by
  intro front
  rcases List.prefix_or_prefix_of_prefix front (List.prefix_append later rest) with short | long
  · exact order.1 short
  · have further := (order.2 long).trans front
    rw [List.prefix_append_right_inj] at further
    exact ends further

theorem plain_dateKeywords : ∀ entry ∈ dateKeywords, Text.Plain entry.1 := by
  simp only [dateKeywords, Text.ofString_eq]
  decide

theorem dateKeyword?_eq_some {cs rest : Text} {relation : DateRelation}
    (found : dateKeyword? cs = some (relation, rest)) :
    ∃ spelling, (spelling.asciiLower, relation) ∈ dateKeywords ∧ cs = spelling ++ rest := by
  obtain ⟨⟨word, meaning⟩, member, stripped⟩ := List.exists_of_findSome?_eq_some found
  simp only [Option.map_eq_some_iff, Prod.mk.injEq] at stripped
  obtain ⟨_, behind, rfl, rfl⟩ := stripped
  rw [Text.stripCaseless?_eq_some word cs _ (plain_dateKeywords _ member)] at behind
  obtain ⟨spelling, shape, rfl⟩ := behind
  exact ⟨spelling, member, shape⟩

theorem dateKeywords_ordered :
    dateKeywords.Pairwise fun earlier later =>
      ¬ earlier.1 <+: later.1 ∧ (later.1 <+: earlier.1 → later.1 ++ [' ', 'o'] <+: earlier.1) := by
  -- A keyword that starts with another one goes on with a blank and an `o`, and is tried before it.
  simp only [dateKeywords, Text.ofString_eq]
  decide

theorem dateKeyword?_spelled {spelling rest : Text} {relation : DateRelation}
    (member : (spelling.asciiLower, relation) ∈ dateKeywords)
    (ends : ¬ [' ', 'o'] <+: rest.asciiLower) :
    dateKeyword? (spelling ++ rest) = some (relation, rest) := by
  apply findSome?_of_apart member
  · have stripped : spelling.asciiLower.stripCaseless? (spelling ++ rest) = some rest := by
      rw [Text.stripCaseless?_eq_some _ _ _ (plain_dateKeywords _ member)]
      exact ⟨spelling, rfl, rfl⟩
    simp [stripped]
  · refine dateKeywords_ordered.imp_of_mem ?_
    rintro earlier _ tried _ order rfl
    have refused : earlier.1.stripCaseless? (spelling ++ rest) = none := by
      rw [Option.eq_none_iff_forall_ne_some]
      intro behind found
      obtain ⟨front, shape, lower⟩ :=
        (Text.stripCaseless?_eq_some _ _ _ (plain_dateKeywords _ tried)).mp found
      apply not_prefix_append order ends
      rw [← Text.asciiLower_append, shape, Text.asciiLower_append, lower]
      exact List.prefix_append _ _
    simp [refused]

theorem dateKeywords_open : ∀ entry ∈ dateKeywords,
    (Text.unspaced entry.1).head?.any (· ∈ keywordInitials) = true := by
  simp only [dateKeywords, Text.ofString_eq]
  decide

theorem opening?_of_keyword {spelling : Text} {relation : DateRelation}
    (member : (spelling.asciiLower, relation) ∈ dateKeywords) :
    ∃ c ∈ keywordInitials, spelling.opening? = some c := by
  obtain ⟨initial, first, known⟩ := (Option.any_eq_true _ _).mp (dateKeywords_open _ member)
  refine ⟨initial, by simpa using known, ?_⟩
  rw [Text.opening?, ← Text.unspaced_asciiLower, first]

theorem not_opensDate_of_keyword {spelling rest : Text} {relation : DateRelation}
    (member : (spelling.asciiLower, relation) ∈ dateKeywords) :
    ¬ Text.OpensDate (spelling ++ rest) := by
  intro ⟨c, opens, other⟩
  obtain ⟨initial, known, front⟩ := opening?_of_keyword member
  rw [Text.opening?_append spelling rest initial front] at opens
  cases opens
  exact other known

theorem dateKeyword?_of_opensDate (cs : Text) (opens : cs.OpensDate) : dateKeyword? cs = none := by
  cases found : dateKeyword? cs with
  | none => rfl
  | some pair =>
    obtain ⟨spelling, member, rfl⟩ := dateKeyword?_eq_some found
    exact absurd opens (not_opensDate_of_keyword member)

theorem read?_of_keyword {spelling rest : Text} {relation : DateRelation} (today : Date)
    (member : (spelling.asciiLower, relation) ∈ dateKeywords) :
    DateRange.read? today (spelling ++ rest) = none := by
  rw [Option.eq_none_iff_forall_ne_some]
  intro range found
  exact not_opensDate_of_keyword member (DateRange.read?_opensDate today _ range found)

theorem not_prefix_of_opensDate (cs : Text) (opens : cs.OpensDate) :
    ¬ [' ', 'o'] <+: cs.asciiLower := by
  intro ⟨tail, shape⟩
  obtain ⟨c, first, other⟩ := opens
  rw [Text.opening?, ← Text.unspaced_asciiLower, ← shape, Text.unspaced_append] at first
  have blank : Text.unspaced [' ', 'o'] = ['o'] := by decide
  rw [blank] at first
  cases first
  exact other (by decide)

end TaskQuery
