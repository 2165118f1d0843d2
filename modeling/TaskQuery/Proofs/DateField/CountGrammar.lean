import TaskQuery.Proofs.DateField.Relation
import TaskQuery.Proofs.Text.Spelling

set_option autoImplicit false

namespace TaskQuery

inductive DateField.CountLine (field : DateField) : Text → Text → Text → Prop where
  | spelled (words before sign after digits : Text) (relation : CountRelation)
    (named : words.map foldCase = (field.name ++ " count").map foldCase)
    (gap : before.all isBlank = true) (known : (sign.map foldCase, relation) ∈ countSigns)
    (space : after.all isBlank = true)
    (nonempty : digits ≠ []) (decimal : digits.all isDecimalDigit = true) :
    CountLine field (words ++ before ++ sign ++ after ++ digits) sign digits

theorem countSigns_ordered :
    countSigns.Pairwise fun earlier later =>
      ¬ earlier.1 <+: later.1 ∧ (later.1 <+: earlier.1 → later.1 ++ ['='] <+: earlier.1) := by
  simp only [countSigns, Text.ofString_eq]
  decide

theorem countSigns_plain : ∀ entry ∈ countSigns, entry.1.map foldCase = entry.1 ∧
    entry.1.head?.any (fun c => isAscii c && !isBlank c) = true := by
  simp only [countSigns, Text.ofString_eq]
  decide

theorem countSign?_eq_some {cs sign behind : Text} (found : countSign? cs = some (sign, behind)) :
    cs = sign ++ behind ∧ ∃ relation, (sign.map foldCase, relation) ∈ countSigns := by
  obtain ⟨⟨word, relation⟩, member, stripped⟩ := List.exists_of_findSome?_eq_some found
  obtain ⟨_, stripped, pair⟩ := Option.map_eq_some_iff.mp stripped
  obtain ⟨spelling, rfl, folded⟩ := (Text.stripBy?_eq_some _ _ _ _).mp stripped
  have length : word.length = spelling.length := by
    simpa using (congrArg List.length folded).symm
  simp only [length, List.take_left, Prod.mk.injEq] at pair
  obtain ⟨rfl, rfl⟩ := pair
  refine ⟨rfl, relation, ?_⟩
  rwa [folded, (countSigns_plain _ member).1]

theorem Text.stripCaseless?_eq_none {word cs : Text}
    (apart : ¬ word.map foldCase <+: cs.map foldCase) : word.stripCaseless? cs = none := by
  rw [Option.eq_none_iff_forall_ne_some]
  intro rest found
  obtain ⟨spelling, rfl, folded⟩ := (stripBy?_eq_some _ _ _ _).mp found
  rw [List.map_append, folded] at apart
  exact apart (List.prefix_append _ _)

theorem countSign?_spelled {sign behind : Text} {relation : CountRelation}
    (known : (sign.map foldCase, relation) ∈ countSigns)
    (ends : ¬ ['='] <+: behind.map foldCase) :
    countSign? (sign ++ behind) = some (sign, behind) := by
  apply findSome?_of_apart known
  · have stripped : Text.stripCaseless? (sign.map foldCase) (sign ++ behind) = some behind :=
      (Text.stripBy?_eq_some _ _ _ _).mpr ⟨sign, rfl, (countSigns_plain _ known).1.symm⟩
    simp [stripped]
  · refine countSigns_ordered.imp_of_mem ?_
    rintro earlier _ tried _ order rfl
    have apart := not_prefix_append order ends
    rw [← List.map_append, ← (countSigns_plain earlier tried).1] at apart
    simp [Text.stripCaseless?_eq_none apart]

theorem blanks_apart_decimalDigits : ∀ blank ∈ blanks, ∀ digit ∈ decimalDigits,
    blank.2 < digit.1 ∨ digit.2 < blank.1 := by
  decide

theorem isBlank_of_isDecimalDigit (c : Char) (digit : isDecimalDigit c = true) :
    isBlank c = false := by
  obtain ⟨digits, member, ge, le⟩ := (CodeRanges.has_iff _ c).mp digit
  rw [← Bool.not_eq_true, isBlank, CodeRanges.has_iff]
  intro ⟨blank, blankMember, above, below⟩
  have apart := blanks_apart_decimalDigits blank blankMember digits member
  omega

theorem visible_of_decimal {digits : Text} (decimal : digits.all isDecimalDigit = true) :
    ∀ c ∈ digits.head?, isBlank c = false := by
  intro c first
  exact isBlank_of_isDecimalDigit c (List.all_eq_true.mp decimal c (List.mem_of_mem_head? first))

theorem isBlank_of_foldCase (c letter : Char) (ascii : isAscii letter = true)
    (folds : foldCase c = letter) (visible : isBlank letter = false) : isBlank c = false := by
  rcases (foldCase_eq_iff c letter ascii).mp folds with lower | ⟨rfl, _⟩ | ⟨rfl, _⟩
  · rw [← isBlank_toLower, lower, visible]
  · decide
  · decide

theorem visible_of_sign {sign : Text} {relation : CountRelation} (behind : Text)
    (known : (sign.map foldCase, relation) ∈ countSigns) :
    ∀ c ∈ (sign ++ behind).head?, isBlank c = false := by
  obtain ⟨letter, first, plain⟩ := (Option.any_eq_true _ _).mp (countSigns_plain _ known).2
  simp only [Bool.and_eq_true, Bool.not_eq_true'] at plain
  cases sign with
  | nil => cases first
  | cons c sign =>
    simpa using isBlank_of_foldCase c letter plain.1 (Option.some.inj first) plain.2

theorem not_equals_behind {after digits : Text} (space : after.all isBlank = true)
    (decimal : digits.all isDecimalDigit = true) : ¬ ['='] <+: (after ++ digits).map foldCase := by
  intro ⟨tail, shape⟩
  have member : '=' ∈ (after ++ digits).map foldCase := by
    rw [← shape]
    exact List.mem_cons_self
  obtain ⟨c, member, folds⟩ := List.mem_map.mp member
  rw [foldCase_eq_sign c '=' (by decide) (by decide)] at folds
  subst folds
  rcases List.mem_append.mp member with blank | digit
  · exact absurd (List.all_eq_true.mp space _ blank) (by decide)
  · exact absurd (List.all_eq_true.mp decimal _ digit) (by decide)

namespace DateField

variable (field : DateField) (line : Text)

theorem count?_eq_some_iff (outcome : Except Problem Condition) :
    field.count? line = some outcome ↔
      ∃ sign digits, field.CountLine line sign digits ∧ field.countOf sign digits = outcome := by
  constructor
  · intro found
    simp only [count?, Option.bind_eq_bind, Option.bind_eq_some_iff] at found
    obtain ⟨rest, stripped, ⟨sign, behind⟩, signed, counted⟩ := found
    obtain ⟨⟨nonempty, decimal⟩, result⟩ := Option.ite_none_right_eq_some.mp counted
    obtain ⟨words, rfl, named⟩ := (Text.stripBy?_eq_some _ _ _ _).mp stripped
    obtain ⟨shape, relation, known⟩ := countSign?_eq_some signed
    have whole : words ++ rest = words ++ rest.takeWhile isBlank ++ sign ++
        behind.takeWhile isBlank ++ behind.dropWhile isBlank := by
      simp only [List.append_assoc, List.takeWhile_append_dropWhile, ← shape]
    rw [whole]
    exact ⟨sign, _, .spelled words _ sign _ _ relation named List.all_takeWhile known
      List.all_takeWhile nonempty decimal, Option.some.inj result⟩
  · rintro ⟨sign, digits, counted, result⟩
    cases counted with
    | spelled words before sign after digits relation named gap known space nonempty decimal =>
      have stripped : (field.name ++ " count").stripCaseless?
          (words ++ before ++ sign ++ after ++ digits) =
            some (before ++ (sign ++ (after ++ digits))) :=
        (Text.stripBy?_eq_some _ _ _ _).mpr ⟨words, by simp, named⟩
      have signed := countSign?_spelled known (not_equals_behind space decimal)
      have opens : (before ++ (sign ++ (after ++ digits))).dropWhile isBlank =
          sign ++ (after ++ digits) := Text.trimStart_gap gap (visible_of_sign _ known)
      have closes : (after ++ digits).dropWhile isBlank = digits :=
        Text.trimStart_gap space (visible_of_decimal decimal)
      simp only [count?, stripped, Option.bind_eq_bind, Option.bind_some, opens, signed, closes]
      rw [if_pos ⟨nonempty, decimal⟩, result]

theorem count?_isSome : (field.count? line).isSome = true ↔
    ∃ sign digits, field.CountLine line sign digits := by
  simp only [Option.isSome_iff_exists, count?_eq_some_iff]
  constructor
  · rintro ⟨_, sign, digits, counted, _⟩
    exact ⟨sign, digits, counted⟩
  · rintro ⟨sign, digits, counted⟩
    exact ⟨_, sign, digits, counted, rfl⟩

variable {field line} {sign digits : Text}

theorem CountLine.names (counted : field.CountLine line sign digits) :
    ∃ rest, field.Names line rest := by
  cases counted with
  | spelled words before sign after digits relation named gap known space nonempty decimal =>
    have stripped : (field.name ++ " count").stripCaseless?
        (words ++ (before ++ sign ++ after ++ digits)) = some (before ++ sign ++ after ++ digits) :=
      (Text.stripBy?_eq_some _ _ _ _).mpr ⟨words, rfl, named⟩
    rw [field.strip_count, Option.bind_eq_some_iff] at stripped
    obtain ⟨rest, stripped, _⟩ := stripped
    refine ⟨rest, (field.names_iff _ rest).mp ?_⟩
    simpa using stripped

theorem CountLine.not_phrase (counted : field.CountLine line sign digits) :
    field.phrase? line = none := by
  cases counted with
  | spelled words before sign after digits relation named gap known space nonempty decimal =>
    obtain ⟨front, last, rfl⟩ := List.eq_nil_or_concat digits |>.resolve_left nonempty
    have digit : isDecimalDigit last = true := by simp_all
    have closes := Text.closing?_concat front last (isBlank_of_isDecimalDigit last digit)
    rw [← List.concat_eq_append] at closes
    -- A digit is not the last letter of `date`.
    apply phrase?_of_closing field _ _ (Text.closing?_append _ _ _ closes)
    intro same
    rw [← isDecimalDigit_toLower, same] at digit
    cases digit

theorem CountLine.read? (counted : field.CountLine line sign digits) :
    field.read? line = some (field.countOf sign digits) := by
  have claimed := (field.count?_eq_some_iff line _).mpr ⟨sign, digits, counted, rfl⟩
  simp [DateField.read?, counted.not_phrase, claimed]

end DateField
end TaskQuery
