import TaskQuery.Proofs.Query.Document

set_option autoImplicit false

namespace TaskQuery

def Directive.isLayout : Directive → Bool
  | .sort _ | .group _ | .filter _ => false
  | _ => true

/-- How a line comes to say what it says. -/
inductive Directive.Arises (fields : List Field) (line : Text) : Directive → Prop where
  | layout (directive : Directive) (quiet : directive.isLayout = true) :
    Arises fields line directive
  | sort (property : Text) (order : Task → Task → Ordering) (reverse : Bool)
    (word : ∀ c ∈ property, isBlank c = false)
    (known : (Field.find? fields property).bind Field.compare? = some order) :
    Arises fields line (.sort ⟨property, order, reverse⟩)
  | group (property : Text) (headings : Task → List Text)
    (inside : ∀ c ∈ property, c ∈ line.lower)
    (known : (Field.find? fields property).bind Field.headings? = some headings) :
    Arises fields line (.group ⟨property, headings⟩)
  | filter (field : Field) (filter : Filter)
    (unreserved : Directive.reserved? fields line.lower = none)
    (asked : fields.find? (·.recognizes line) = some field)
    (compiled : field.compile line = .ok filter) :
    Arises fields line (.filter filter)

namespace Directive.Arises

variable {fields : List Field} {line : Text}

theorem of_sort {sorter : Sorter} (arises : Arises fields line (.sort sorter)) :
    (∀ c ∈ sorter.property, isBlank c = false) ∧
      (Field.find? fields sorter.property).bind Field.compare? = some sorter.order := by
  cases arises with
  | layout _ quiet => cases quiet
  | sort property order reverse word known => exact ⟨word, known⟩

theorem of_group {grouper : Grouper} (arises : Arises fields line (.group grouper)) :
    (∀ c ∈ grouper.property, c ∈ line.lower) ∧
      (Field.find? fields grouper.property).bind Field.headings? = some grouper.headings := by
  cases arises with
  | layout _ quiet => cases quiet
  | group property headings inside known => exact ⟨inside, known⟩

theorem of_filter {asked : Filter} (arises : Arises fields line (.filter asked)) :
    reserved? fields line.lower = none ∧
      ∃ field, fields.find? (·.recognizes line) = some field ∧ field.compile line = .ok asked := by
  cases arises with
  | layout _ quiet => cases quiet
  | filter field asked unreserved found compiled => exact ⟨unreserved, field, found, compiled⟩

end Directive.Arises

theorem Element.keywords_apart : ∀ element other : Element,
    element.keyword <+: other.keyword → element = other := by
  intro element other
  cases element <;> cases other <;> simp only [keyword, Text.ofString_eq] <;> decide

theorem Element.eq_of_keyword {element other : Element} {cs : Text}
    (one : element.keyword <+: cs) (two : other.keyword <+: cs) : element = other := by
  cases List.prefix_or_prefix_of_prefix one two with
  | inl short => exact keywords_apart element other short
  | inr long => exact (keywords_apart other element long).symm

theorem Element.read?_eq_some_iff (cs : Text) (element : Element) :
    Element.read? cs = some element ↔ element.keyword <+: Text.lower cs := by
  constructor
  · intro found
    simpa using List.find?_some found
  · intro names
    cases found : Element.read? cs with
    | none =>
      have every : element ∈ Element.all := by cases element <;> decide
      have refused := List.find?_eq_none.mp found element every
      exact absurd (by simpa using names) refused
    | some other =>
      have otherNames : other.keyword <+: Text.lower cs := by
        simpa using List.find?_some found
      rw [eq_of_keyword names otherNames]

theorem DateDisplay.read_eq_ok_iff (cs : Text) (dates : DateDisplay) :
    DateDisplay.read cs = .ok dates ↔ (Text.trim cs).asciiLower = dates.word := by
  constructor
  · intro read
    cases found : ofWord? (Text.trim cs).asciiLower with
    | none => simp [DateDisplay.read, found] at read
    | some display =>
      obtain rfl : display = dates := by simpa [DateDisplay.read, found] using read
      have word := List.find?_some found
      exact (of_decide_eq_true word).symm
  · intro names
    simp [DateDisplay.read, names, ofWord?_word]

theorem Text.visible_of_mem_pieces (sep : Char → Bool) (cs : Text) :
    ∀ piece ∈ pieces sep cs, ∀ c ∈ piece, sep c = false := by
  induction cs with
  | nil => simp [pieces]
  | cons c cs ih =>
    obtain ⟨first, rest, behind⟩ := List.exists_cons_of_ne_nil (pieces_ne_nil sep cs)
    rw [behind, List.forall_mem_cons] at ih
    by_cases ends : sep c = true
    · simpa [pieces, ends, behind] using ih
    · simpa [pieces, ends, behind] using ih

theorem Text.visible_of_mem_words (cs : Text) :
    ∀ word ∈ words cs, ∀ c ∈ word, isBlank c = false := by
  intro word member
  exact visible_of_mem_pieces isBlank cs word (List.mem_of_mem_filter member)

namespace Directive

variable {fields : List Field} {line : Text}

theorem arises_sortBy (property : Text) (reverse : Bool) (directive : Directive)
    (word : ∀ c ∈ property, isBlank c = false)
    (read : sortBy fields property reverse = .ok directive) : Arises fields line directive := by
  unfold sortBy at read
  split at read
  next order known =>
    cases read
    exact .sort property order reverse word known
  next => cases read

theorem arises_readSort (cs : Text) (directive : Directive)
    (read : readSort fields cs = .ok directive) : Arises fields line directive := by
  have visible := Text.visible_of_mem_words cs
  unfold readSort at read
  split at read
  next => exact arises_sortBy [] false directive (by simp) read
  next property shape =>
    rw [shape] at visible
    exact arises_sortBy property false directive (visible property (by simp)) read
  next property word shape =>
    rw [shape] at visible
    split at read
    next => exact arises_sortBy property true directive (visible property (by simp)) read
    next => cases read
  next => cases read

theorem arises_groupBy (property : Text) (directive : Directive)
    (inside : ∀ c ∈ property, c ∈ line.lower)
    (read : groupBy fields property = .ok directive) : Arises fields line directive := by
  unfold groupBy at read
  split at read
  next headings known =>
    cases read
    exact .group property headings inside known
  next => cases read

theorem isLayout_of_lookup (cs : Text) (directive : Directive)
    (found : phrases.lookup cs = some directive) : directive.isLayout = true := by
  obtain ⟨before, after, table, _⟩ := List.lookup_eq_some_iff.mp found
  have member : (cs, directive) ∈ phrases := by simp [table]
  simp only [phrases, List.mem_cons, Prod.mk.injEq, List.not_mem_nil, or_false] at member
  rcases member with ⟨_, rfl⟩ | ⟨_, rfl⟩ | ⟨_, rfl⟩ | ⟨_, rfl⟩ | ⟨_, rfl⟩ <;> rfl

theorem keyword_of_readVisibility {text : Text} {directive : Directive} {hidden : Bool}
    (read : readVisibility hidden text = .ok directive) :
    ∃ element : Element, directive = .visibility element hidden ∧ element.keyword <+: text.lower := by
  unfold readVisibility at read
  split at read
  next element found =>
    cases read
    exact ⟨element, rfl, (Element.read?_eq_some_iff text element).mp found⟩
  next => cases read

theorem word_of_display {text : Text} {directive : Directive}
    (read : (DateDisplay.read text).map display = .ok directive) :
    ∃ dates : DateDisplay, directive = .display dates ∧ text.trim.asciiLower = dates.word := by
  cases found : DateDisplay.read text with
  | error problem => simp [found, Except.map] at read
  | ok dates =>
    rw [found] at read
    cases read
    exact ⟨dates, rfl, (DateDisplay.read_eq_ok_iff text dates).mp found⟩

theorem arises_openings (opening rest : Text) (reader : Text → Except Problem Directive)
    (directive : Directive) (known : (opening, reader) ∈ openings fields)
    (shape : line.lower = opening ++ rest) (read : reader rest = .ok directive) :
    Arises fields line directive := by
  simp only [openings, List.mem_cons, Prod.mk.injEq, List.not_mem_nil, or_false] at known
  rcases known with ⟨_, rfl⟩ | ⟨_, rfl⟩ | ⟨_, rfl⟩ | ⟨_, rfl⟩ | ⟨_, rfl⟩
  · obtain ⟨element, rfl, _⟩ := keyword_of_readVisibility read
    exact .layout _ rfl
  · obtain ⟨element, rfl, _⟩ := keyword_of_readVisibility read
    exact .layout _ rfl
  · obtain ⟨dates, rfl, _⟩ := word_of_display read
    exact .layout _ rfl
  · exact arises_readSort rest directive read
  · refine arises_groupBy rest.trim directive ?_ read
    intro c member
    rw [shape]
    exact List.mem_append_right opening (rest.mem_of_mem_trim c member)

theorem openings_small : ∀ entry ∈ openings fields,
    entry.1.asciiLower = entry.1 ∧ ∀ c ∈ entry.1, isAscii c = true := by
  simp [openings, Text.ofString_eq, Text.asciiLower, isAscii]

theorem reserved?_opening {opening : Text} {reader : Text → Except Problem Directive} (rest : Text)
    (known : (opening, reader) ∈ openings fields) :
    reserved? fields (opening ++ rest) = some (reader rest) := by
  simp only [openings, List.mem_cons, Prod.mk.injEq, List.not_mem_nil, or_false] at known
  -- No phrase starts with an opening, and no opening with another.
  rcases known with ⟨rfl, rfl⟩ | ⟨rfl, rfl⟩ | ⟨rfl, rfl⟩ | ⟨rfl, rfl⟩ | ⟨rfl, rfl⟩ <;>
    simp [reserved?, phrases, openings, Text.ofString_eq, Text.strip?, Text.stripBy?,
      List.lookup_cons]

theorem read_opening {opening rest : Text} {reader : Text → Except Problem Directive}
    (known : (opening, reader) ∈ openings fields) (shape : line.lower = opening ++ rest) :
    Directive.read fields line = (reader rest).mapError (CompileError.mk line) := by
  rw [Directive.read, shape, reserved?_opening rest known]

theorem read_of_phrase {directive : Directive} (phrase : phrases.lookup line.lower = some directive) :
    Directive.read fields line = .ok directive := by
  simp [Directive.read, reserved?, phrase, Except.mapError]

theorem reserved?_ok (lowered : Text) (directive : Directive)
    (reserved : reserved? fields lowered = some (.ok directive)) :
    phrases.lookup lowered = some directive ∨ ∃ opening reader rest,
      (opening, reader) ∈ openings fields ∧ lowered = opening ++ rest ∧
        reader rest = .ok directive := by
  cases Option.or_eq_some_iff.mp reserved with
  | inl phrase =>
    obtain ⟨_, found, same⟩ := Option.map_eq_some_iff.mp phrase
    cases same
    exact .inl found
  | inr opened =>
    obtain ⟨⟨opening, reader⟩, known, accepted⟩ := List.exists_of_findSome?_eq_some opened.2
    obtain ⟨rest, stripped, meaning⟩ := Option.map_eq_some_iff.mp accepted
    exact .inr ⟨opening, reader, rest, known, (Text.strip?_eq_some _ _ _).mp stripped, meaning⟩

theorem read_ok (directive : Directive) (read : Directive.read fields line = .ok directive) :
    reserved? fields line.lower = some (.ok directive) ∨
      reserved? fields line.lower = none ∧ ∃ field filter,
        fields.find? (·.recognizes line) = some field ∧ field.compile line = .ok filter ∧
          directive = .filter filter := by
  unfold Directive.read at read
  split at read
  next result reserved =>
    obtain rfl : result = .ok directive := by
      cases result <;> simp_all [Except.mapError]
    exact .inl reserved
  next unreserved =>
    right
    unfold readFilter at read
    split at read
    next field asked =>
      cases compiled : field.compile line with
      | error problem => simp [compiled, Except.map] at read
      | ok filter =>
        rw [compiled] at read
        cases read
        exact ⟨unreserved, field, filter, asked, compiled, rfl⟩
    next => cases read

theorem arises (directive : Directive) (read : Directive.read fields line = .ok directive) :
    Arises fields line directive := by
  rcases read_ok directive read with reserved | ⟨unreserved, field, filter, asked, compiled, rfl⟩
  · rcases reserved?_ok line.lower directive reserved with
      phrase | ⟨opening, reader, rest, known, shape, meaning⟩
    · exact .layout directive (isLayout_of_lookup _ directive phrase)
    · exact arises_openings opening rest reader directive known shape meaning
  · exact .filter field filter unreserved asked compiled

end Directive

theorem exists_of_forall₂ {α β : Type} {related : α → β → Prop} {lefts : List α} {rights : List β}
    (each : List.Forall₂ related lefts rights) : ∀ right ∈ rights, ∃ left, related left right := by
  induction each with
  | nil => simp
  | cons first _ ih => exact List.forall_mem_cons.mpr ⟨⟨_, first⟩, ih⟩

section

variable {fields : List Field} {source : Text} {query : Query}

theorem Query.exists_directives (read : Query.read fields source = .ok query) :
    ∃ directives, query = Query.of directives ∧
      ∀ directive ∈ directives, ∃ line, Spoken line ∧ Directive.read fields line = .ok directive := by
  obtain ⟨directives, run, same⟩ := Query.exists_run read
  have each := run.directives directives rfl
  have spoken := (List.forall₂_and_left _ _).mpr ⟨spoken_of_said source, each⟩
  exact ⟨directives, same, exists_of_forall₂ spoken⟩

theorem Directive.mem_of (directives : List Directive) :
    (∀ filter ∈ (Query.of directives).filters, Directive.filter filter ∈ directives) ∧
      (∀ sorter ∈ (Query.of directives).sorters, Directive.sort sorter ∈ directives) ∧
      ∀ grouper ∈ (Query.of directives).groupers, Directive.group grouper ∈ directives := by
  obtain ⟨filters, sorters, groupers⟩ := Query.lists_foldl directives {}
  rw [Query.of, filters, sorters, groupers]
  simp only [List.nil_append, List.mem_flatMap]
  refine ⟨?_, ?_, ?_⟩
  all_goals
    rintro part ⟨directive, member, added⟩
    cases directive <;> simp [Query.of, Query.add] at added
    rwa [added]

theorem Query.exists_line (read : Query.read fields source = .ok query) :
    (∀ filter ∈ query.filters, ∃ line, Spoken line ∧
      Directive.Arises fields line (.filter filter)) ∧
    (∀ sorter ∈ query.sorters, ∃ line, Spoken line ∧
      Directive.Arises fields line (.sort sorter)) ∧
    ∀ grouper ∈ query.groupers, ∃ line, Spoken line ∧
      Directive.Arises fields line (.group grouper) := by
  obtain ⟨directives, rfl, each⟩ := Query.exists_directives read
  have arises : ∀ directive ∈ directives, ∃ line, Spoken line ∧
      Directive.Arises fields line directive := by
    intro directive member
    obtain ⟨line, spoken, read⟩ := each directive member
    exact ⟨line, spoken, Directive.arises directive read⟩
  obtain ⟨filters, sorters, groupers⟩ := Directive.mem_of directives
  exact ⟨fun filter member => arises _ (filters filter member),
    fun sorter member => arises _ (sorters sorter member),
    fun grouper member => arises _ (groupers grouper member)⟩

theorem Query.exists_field (read : Query.read fields source = .ok query) :
    (∀ filter ∈ query.filters, ∃ field ∈ fields, ∃ line, field.compile line = .ok filter) ∧
    (∀ sorter ∈ query.sorters, ∃ field ∈ fields, field.compare? = some sorter.order) ∧
    ∀ grouper ∈ query.groupers, ∃ field ∈ fields, field.headings? = some grouper.headings := by
  obtain ⟨filters, sorters, groupers⟩ := Query.exists_line read
  refine ⟨?_, ?_, ?_⟩
  · intro filter member
    obtain ⟨line, _, arises⟩ := filters filter member
    obtain ⟨_, field, found, compiled⟩ := arises.of_filter
    exact ⟨field, List.mem_of_find?_eq_some found, line, compiled⟩
  · intro sorter member
    obtain ⟨_, _, arises⟩ := sorters sorter member
    obtain ⟨field, found, compares⟩ := Option.bind_eq_some_iff.mp arises.of_sort.2
    exact ⟨field, List.mem_of_find?_eq_some found, compares⟩
  · intro grouper member
    obtain ⟨_, _, arises⟩ := groupers grouper member
    obtain ⟨field, found, heads⟩ := Option.bind_eq_some_iff.mp arises.of_group.2
    exact ⟨field, List.mem_of_find?_eq_some found, heads⟩

theorem Query.lawful_of_read (read : Query.read fields source = .ok query)
    (lawful : ∀ field ∈ fields, ∀ order, field.compare? = some order → Std.TransCmp order) :
    ∀ sorter ∈ query.sorters, Std.TransCmp sorter.order := by
  intro sorter member
  obtain ⟨field, known, compares⟩ := (Query.exists_field read).2.1 sorter member
  exact lawful field known sorter.order compares

end

end TaskQuery
