import TaskQuery.Proofs.Query.Directive
import TaskQuery.Proofs.Query.Rearrangement
import TaskQuery.Proofs.Text.Block
import TaskQuery.Proofs.Text.Lower

set_option autoImplicit false

namespace TaskQuery

section

variable {α β : Type} (writes : α → β → Prop)

/-- What a list of writes leaves: the value of the last item that writes one, and what stood there
before when none does. -/
def LastWritten (before : β) (items : List α) (after : β) : Prop :=
  (∃ front item back, items = front ++ item :: back ∧ writes item after ∧
    ∀ later ∈ back, ∀ value, ¬ writes later value) ∨
  (∀ item ∈ items, ∀ value, ¬ writes item value) ∧ after = before

variable {writes} {before after value : β} {item : α} {items : List α}

theorem LastWritten.nil : LastWritten writes before [] before :=
  .inr ⟨by simp, rfl⟩

theorem LastWritten.silent (none : ∀ value, ¬ writes item value)
    (rest : LastWritten writes before items after) :
    LastWritten writes before (item :: items) after := by
  cases rest with
  | inl written =>
    obtain ⟨front, last, back, rfl, lastWrites, later⟩ := written
    exact .inl ⟨item :: front, last, back, rfl, lastWrites, later⟩
  | inr unwritten => exact .inr ⟨List.forall_mem_cons.mpr ⟨none, unwritten.1⟩, unwritten.2⟩

theorem LastWritten.write (now : writes item value) (rest : LastWritten writes value items after) :
    LastWritten writes before (item :: items) after := by
  cases rest with
  | inl written =>
    obtain ⟨front, last, back, rfl, lastWrites, later⟩ := written
    exact .inl ⟨item :: front, last, back, rfl, lastWrites, later⟩
  | inr unwritten =>
    rw [unwritten.2]
    exact .inl ⟨[], item, items, rfl, now, unwritten.1⟩

-- One step sets what its item writes and keeps the rest, so a run leaves the last write.
theorem lastWritten_foldl {σ : Type} (step : σ → α → σ) (get : σ → β)
    (set : ∀ state item value, writes item value → get (step state item) = value)
    (keep : ∀ state item, (∀ value, ¬ writes item value) → get (step state item) = get state)
    (state : σ) (items : List α) :
    LastWritten writes (get state) items (get (items.foldl step state)) := by
  induction items generalizing state with
  | nil => exact .nil
  | cons item items ih =>
    have rest := ih (step state item)
    by_cases written : ∃ value, writes item value
    · obtain ⟨value, now⟩ := written
      rw [set state item value now] at rest
      exact .write now rest
    · have none := not_exists.mp written
      rw [keep state item none] at rest
      exact .silent none rest

end

inductive Setting where
  | hides (element : Element)
  | short
  | explained
  | dates

abbrev Setting.Value : Setting → Type
  | .hides _ | .short | .explained => Bool
  | .dates => DateDisplay

def Layout.value (layout : Layout) : (setting : Setting) → setting.Value
  | .hides element => layout.hides element
  | .short => layout.short
  | .explained => layout.explained
  | .dates => layout.dates

inductive Assigns (line : Text) : (setting : Setting) → setting.Value → Prop where
  | hide (element : Element) (text : Text) (opens : line.lower = "hide " ++ text)
    (names : element.keyword <+: text.lower) : Assigns line (.hides element) true
  | unhide (element : Element) (text : Text) (opens : line.lower = "show " ++ text)
    (names : element.keyword <+: text.lower) : Assigns line (.hides element) false
  | explain (whole : line.lower = "explain") : Assigns line .explained true
  | short (whole : line.lower = "short" ∨ line.lower = "short mode") : Assigns line .short true
  | full (whole : line.lower = "full" ∨ line.lower = "full mode") : Assigns line .short false
  | display (dates : DateDisplay) (text : Text) (opens : line.lower = "top3 display " ++ text)
    (names : text.trim.asciiLower = dates.word) : Assigns line .dates dates

inductive Directive.Sets : Directive → (setting : Setting) → setting.Value → Prop where
  | visibility (element : Element) (hidden : Bool) :
    Sets (.visibility element hidden) (.hides element) hidden
  | short (short : Bool) : Sets (.short short) .short short
  | explain : Sets .explain .explained true
  | display (dates : DateDisplay) : Sets (.display dates) .dates dates

theorem Directive.sets_iff_isLayout (directive : Directive) :
    (∃ setting value, directive.Sets setting value) ↔ directive.isLayout = true := by
  constructor
  · intro ⟨setting, value, sets⟩
    cases sets <;> rfl
  · intro quiet
    cases directive with
    | explain => exact ⟨_, _, .explain⟩
    | short short => exact ⟨_, _, .short short⟩
    | visibility element hidden => exact ⟨_, _, .visibility element hidden⟩
    | display dates => exact ⟨_, _, .display dates⟩
    | sort | group | filter => cases quiet

theorem Query.layout_add_of_sets {directive : Directive} {setting : Setting}
    {value : setting.Value} (query : Query) (sets : directive.Sets setting value) :
    (query.add directive).layout.value setting = value := by
  cases sets <;> simp [Query.add, Layout.value, Layout.setHidden]

theorem Query.layout_add_of_not_sets {directive : Directive} {setting : Setting} (query : Query)
    (none : ∀ value, ¬ directive.Sets setting value) :
    (query.add directive).layout.value setting = query.layout.value setting := by
  cases directive with
  | explain =>
    cases setting with
    | explained => exact absurd .explain (none true)
    | hides | short | dates => rfl
  | short short =>
    cases setting with
    | short => exact absurd (.short short) (none short)
    | hides | explained | dates => rfl
  | visibility element hidden =>
    cases setting with
    | hides other =>
      by_cases same : other = element
      · subst same
        exact absurd (.visibility other hidden) (none hidden)
      · simp [Query.add, Layout.value, Layout.setHidden, same]
    | short | explained | dates => rfl
  | display dates =>
    cases setting with
    | dates => exact absurd (.display dates) (none dates)
    | hides | short | explained => rfl
  | sort | group | filter => rfl

namespace Directive

section

variable {fields : List Field} {line : Text}

theorem readVisibility_eq_ok {text : Text} {element : Element} (hidden : Bool)
    (names : element.keyword <+: text.lower) :
    readVisibility hidden text = .ok (visibility element hidden) := by
  simp [readVisibility, (Element.read?_eq_some_iff text element).mpr names]

variable (fields) in
theorem read_of_assigns {setting : Setting} {value : setting.Value}
    (assigns : Assigns line setting value) :
    ∃ directive, Directive.read fields line = .ok directive ∧ directive.Sets setting value := by
  cases assigns with
  | hide element text opens names =>
    have opening : (Text.ofString "hide ", readVisibility true) ∈ openings fields := by
      simp [openings]
    refine ⟨.visibility element true, ?_, .visibility element true⟩
    rw [read_opening opening opens, readVisibility_eq_ok true names]
    rfl
  | unhide element text opens names =>
    have opening : (Text.ofString "show ", readVisibility false) ∈ openings fields := by
      simp [openings]
    refine ⟨.visibility element false, ?_, .visibility element false⟩
    rw [read_opening opening opens, readVisibility_eq_ok false names]
    rfl
  | explain whole =>
    refine ⟨.explain, read_of_phrase ?_, .explain⟩
    rw [whole]
    simp [phrases, Text.ofString_eq]
  | short whole =>
    refine ⟨.short true, read_of_phrase ?_, .short true⟩
    rcases whole with whole | whole <;> rw [whole] <;>
      simp [phrases, Text.ofString_eq, List.lookup_cons]
  | full whole =>
    refine ⟨.short false, read_of_phrase ?_, .short false⟩
    rcases whole with whole | whole <;> rw [whole] <;>
      simp [phrases, Text.ofString_eq, List.lookup_cons]
  | display dates text opens names =>
    have opening : (Text.ofString "top3 display ", fun cs => (DateDisplay.read cs).map display) ∈
        openings fields := by
      simp [openings]
    refine ⟨.display dates, ?_, .display dates⟩
    rw [read_opening opening opens, (DateDisplay.read_eq_ok_iff text dates).mpr names]
    rfl

theorem assigns_of_phrase {directive : Directive} {setting : Setting} {value : setting.Value}
    (phrase : phrases.lookup line.lower = some directive) (sets : directive.Sets setting value) :
    Assigns line setting value := by
  obtain ⟨before, after, table, _⟩ := List.lookup_eq_some_iff.mp phrase
  have member : (line.lower, directive) ∈ phrases := by simp [table]
  simp only [phrases, List.mem_cons, Prod.mk.injEq, List.not_mem_nil, or_false] at member
  rcases member with ⟨whole, rfl⟩ | ⟨whole, rfl⟩ | ⟨whole, rfl⟩ | ⟨whole, rfl⟩ | ⟨whole, rfl⟩
  · cases sets
    exact .explain whole
  · cases sets
    exact .short (.inr whole)
  · cases sets
    exact .short (.inl whole)
  · cases sets
    exact .full (.inr whole)
  · cases sets
    exact .full (.inl whole)

theorem not_isLayout_sortBy {property : Text} {reverse : Bool} {directive : Directive}
    (read : sortBy fields property reverse = .ok directive) : directive.isLayout = false := by
  unfold sortBy at read
  split at read <;> cases read
  rfl

theorem not_isLayout_readSort {text : Text} {directive : Directive}
    (read : readSort fields text = .ok directive) : directive.isLayout = false := by
  unfold readSort at read
  split at read
  next => exact not_isLayout_sortBy read
  next => exact not_isLayout_sortBy read
  next =>
    split at read
    next => exact not_isLayout_sortBy read
    next => cases read
  next => cases read

theorem not_isLayout_groupBy {property : Text} {directive : Directive}
    (read : groupBy fields property = .ok directive) : directive.isLayout = false := by
  unfold groupBy at read
  split at read <;> cases read
  rfl

theorem assigns_of_opening {opening text : Text} {reader : Text → Except Problem Directive}
    {directive : Directive} {setting : Setting} {value : setting.Value}
    (known : (opening, reader) ∈ openings fields) (shape : line.lower = opening ++ text)
    (read : reader text = .ok directive) (sets : directive.Sets setting value) :
    Assigns line setting value := by
  have quiet := (sets_iff_isLayout directive).mp ⟨setting, value, sets⟩
  simp only [openings, List.mem_cons, Prod.mk.injEq, List.not_mem_nil, or_false] at known
  rcases known with ⟨rfl, rfl⟩ | ⟨rfl, rfl⟩ | ⟨rfl, rfl⟩ | ⟨rfl, rfl⟩ | ⟨rfl, rfl⟩
  · obtain ⟨element, rfl, names⟩ := keyword_of_readVisibility read
    cases sets
    exact .hide element text shape names
  · obtain ⟨element, rfl, names⟩ := keyword_of_readVisibility read
    cases sets
    exact .unhide element text shape names
  · obtain ⟨dates, rfl, names⟩ := word_of_display read
    cases sets
    exact .display dates text shape names
  · rw [not_isLayout_readSort read] at quiet
    cases quiet
  · rw [not_isLayout_groupBy read] at quiet
    cases quiet

theorem assigns_of_read {directive : Directive} {setting : Setting} {value : setting.Value}
    (read : Directive.read fields line = .ok directive) (sets : directive.Sets setting value) :
    Assigns line setting value := by
  rcases read_ok directive read with reserved | ⟨_, _, _, _, _, rfl⟩
  · rcases reserved?_ok line.lower directive reserved with
      phrase | ⟨opening, reader, rest, known, shape, meaning⟩
    · exact assigns_of_phrase phrase sets
    · exact assigns_of_opening known shape meaning sets
  · cases sets

theorem assigns_iff_of_read {directive : Directive}
    (read : Directive.read fields line = .ok directive) (setting : Setting)
    (value : setting.Value) : Assigns line setting value ↔ directive.Sets setting value := by
  constructor
  · intro assigns
    obtain ⟨other, read', sets⟩ := read_of_assigns fields assigns
    rw [read] at read'
    cases read'
    exact sets
  · exact assigns_of_read read

end

end Directive

def AboutLayout (line : Text) : Prop :=
  ∃ setting value, Assigns line setting value

theorem aboutLayout_iff_of_read {fields : List Field} {line : Text} {directive : Directive}
    (read : Directive.read fields line = .ok directive) :
    AboutLayout line ↔ directive.isLayout = true := by
  simp only [AboutLayout, Directive.assigns_iff_of_read read, directive.sets_iff_isLayout]

theorem aboutLayout_iff_fieldless (line : Text) :
    AboutLayout line ↔ (Directive.read [] line).isOk = true := by
  cases read : Directive.read [] line with
  | error error =>
    simp only [Except.isOk, Except.toBool, Bool.false_eq_true, iff_false]
    intro ⟨setting, value, assigns⟩
    obtain ⟨directive, read', _⟩ := Directive.read_of_assigns [] assigns
    rw [read] at read'
    cases read'
  | ok directive =>
    rw [aboutLayout_iff_of_read read]
    simp only [Except.isOk, Except.toBool, iff_true]
    cases Directive.arises directive read with
    | layout _ quiet => exact quiet
    | sort _ _ _ _ known | group _ _ _ known => cases known
    | filter _ _ _ asked _ => cases asked

instance (line : Text) : Decidable (AboutLayout line) :=
  decidable_of_iff _ (aboutLayout_iff_fieldless line).symm

theorem not_aboutLayout_of_remark (line : Text) (silent : isRemark line = true) :
    ¬ AboutLayout line := by
  intro ⟨setting, value, assigns⟩
  have letter : line.lower.head? ≠ none ∧ line.lower.head? ≠ some '#' := by
    cases assigns with
    | hide _ _ opens _ | unhide _ _ opens _ | display _ _ opens _ =>
      simp [opens, Text.ofString_eq]
    | explain whole => simp [whole, Text.ofString_eq]
    | short whole | full whole => rcases whole with whole | whole <;> simp [whole, Text.ofString_eq]
  cases line with
  | nil => exact letter.1 rfl
  | cons c cs =>
    obtain rfl : c = '#' := by simpa [isRemark] using silent
    exact letter.2 rfl

section

variable {fields : List Field} {number : Nat} {lines : List Text}
  {result : Except QueryError (List Directive)}

theorem ReadsTo.layout (run : ReadsTo fields number lines result) (directives : List Directive)
    (success : result = .ok directives) (query : Query) (setting : Setting) :
    LastWritten (fun raw value => Assigns raw.trim setting value) (query.layout.value setting) lines
      ((directives.foldl Query.add query).layout.value setting) := by
  induction run generalizing directives query with
  | nil number =>
    cases success
    exact .nil
  | remark number line lines result silent rest ih =>
    refine .silent ?_ (ih directives success query)
    intro value assigns
    exact not_aboutLayout_of_remark line.trim silent ⟨setting, value, assigns⟩
  | error number line lines error speaks failed => cases success
  | ok number line lines directive result speaks understood rest ih =>
    cases result with
    | error error => cases success
    | ok later =>
      cases success
      have after := ih later rfl (query.add directive)
      have meaning := Directive.assigns_iff_of_read understood setting
      by_cases sets : ∃ value, directive.Sets setting value
      · obtain ⟨value, sets⟩ := sets
        rw [query.layout_add_of_sets sets] at after
        exact .write ((meaning value).mpr sets) after
      · have none := not_exists.mp sets
        rw [query.layout_add_of_not_sets none] at after
        exact .silent (fun value assigns => none value ((meaning value).mp assigns)) after

theorem ReadsTo.without_layout (run : ReadsTo fields number lines result)
    (directives : List Directive) (success : result = .ok directives) (start : Nat) :
    ReadsTo fields start (lines.filter fun raw => ¬ AboutLayout raw.trim)
      (.ok (directives.filter (!·.isLayout))) := by
  induction run generalizing directives start with
  | nil number =>
    cases success
    exact .nil start
  | remark number line lines result silent rest ih =>
    rw [List.filter_cons_of_pos (by simpa using not_aboutLayout_of_remark line.trim silent)]
    exact .remark start line _ _ silent (ih directives success (start + 1))
  | error number line lines error speaks failed => cases success
  | ok number line lines directive result speaks understood rest ih =>
    cases result with
    | error error => cases success
    | ok later =>
      cases success
      have about := aboutLayout_iff_of_read understood
      cases quiet : directive.isLayout with
      | true =>
        rw [List.filter_cons_of_neg (by simpa [quiet] using about),
          List.filter_cons_of_neg (by simp [quiet])]
        exact ih later rfl start
      | false =>
        rw [List.filter_cons_of_pos (by simpa [quiet] using about),
          List.filter_cons_of_pos (by simp [quiet])]
        exact .ok start line _ directive _ speaks understood (ih later rfl (start + 1))

theorem readFrom_join (number : Nat) (whole : ∀ line ∈ lines, '\n' ∉ line) :
    readFrom fields number (Text.join "\n" lines).lines = readFrom fields number lines := by
  by_cases empty : lines = []
  · subst empty
    exact readFrom_remark fields number [] [] rfl
  · rw [Text.lines_join lines empty whole]

end

theorem Query.parts_without_layout (directives : List Directive) :
    (Query.of (directives.filter (!·.isLayout))).filters = (Query.of directives).filters ∧
      (Query.of (directives.filter (!·.isLayout))).sorters = (Query.of directives).sorters ∧
      (Query.of (directives.filter (!·.isLayout))).groupers = (Query.of directives).groupers := by
  have kept {β : Type} (part : Directive → List β)
      (none : ∀ directive, directive.isLayout = true → part directive = []) :
      (directives.filter (!·.isLayout)).flatMap part = directives.flatMap part := by
    induction directives with
    | nil => rfl
    | cons directive directives ih =>
      cases quiet : directive.isLayout with
      | true => simp [quiet, none directive quiet, ih]
      | false => simp [quiet, ih]
  have quiet (directive : Directive) (quiet : directive.isLayout = true) :
      (Query.of [directive]).filters = [] ∧ (Query.of [directive]).sorters = [] ∧
        (Query.of [directive]).groupers = [] := by
    cases directive with
    | explain | short | visibility | display => exact ⟨rfl, rfl, rfl⟩
    | sort | group | filter => cases quiet
  obtain ⟨filters, sorters, groupers⟩ := Query.lists_foldl directives {}
  obtain ⟨filters', sorters', groupers'⟩ :=
    Query.lists_foldl (directives.filter (!·.isLayout)) {}
  rw [Query.of, Query.of, filters, filters', sorters, sorters', groupers, groupers',
    kept _ fun directive layout => (quiet directive layout).1,
    kept _ fun directive layout => (quiet directive layout).2.1,
    kept _ fun directive layout => (quiet directive layout).2.2]
  exact ⟨rfl, rfl, rfl⟩

def withoutLayout (source : Text) : Text :=
  Text.join "\n" (source.lines.filter fun raw => ¬ AboutLayout raw.trim)

section

variable {fields : List Field} {source : Text} {query : Query}

theorem Query.read_withoutLayout (read : Query.read fields source = .ok query) :
    ∃ rest, Query.read fields (withoutLayout source) = .ok rest ∧
      ∀ {α : Type} (task : α → Task) (items : List α),
        rest.apply task items = query.apply task items := by
  obtain ⟨directives, run, rfl⟩ := Query.exists_run read
  have kept := (run.without_layout directives rfl 1).eq
  rw [← readFrom_join 1 fun raw member =>
    source.whole_of_mem_lines raw (List.mem_of_mem_filter member)] at kept
  refine ⟨Query.of (directives.filter (!·.isLayout)), ?_, ?_⟩
  · rw [Query.read_eq, withoutLayout, kept]
    rfl
  · intro α task items
    obtain ⟨filters, sorters, groupers⟩ := Query.parts_without_layout directives
    refine Query.apply_congr ?_ sorters groupers task items
    intro task
    rw [Query.accepts, filters, Query.accepts]

theorem aboutLayout_iff (read : Query.read fields source = .ok query) (raw : Text)
    (member : raw ∈ source.lines) : AboutLayout raw.trim ↔
      isRemark raw.trim = false ∧ raw.trim ∉ filterLines fields source ∧
        raw.trim ∉ sortLines fields source ∧ raw.trim ∉ groupLines fields source := by
  cases silent : isRemark raw.trim with
  | true => simp [not_aboutLayout_of_remark raw.trim silent]
  | false =>
    have inside : raw.trim ∈ said source.lines := by
      simp only [said, List.mem_filter, List.mem_map, silent, Bool.not_false, and_true]
      exact ⟨raw, member, rfl⟩
    obtain ⟨directives, run, _⟩ := Query.exists_run read
    obtain ⟨directive, understood⟩ :=
      exists_of_forall₂ (run.directives directives rfl).flip raw.trim inside
    have alone : Query.alone fields raw.trim = Query.of [directive] := by
      rw [Query.alone, Query.read_spoken fields _ (spoken_of_said source raw.trim inside),
        understood]
      rfl
    rw [aboutLayout_iff_of_read understood]
    simp only [filterLines, sortLines, groupLines, linesAdding, List.mem_filter, inside, alone]
    cases directive <;> simp [Query.of, Query.add, Directive.isLayout]

end

def Layout.request (layout : Layout) (call : Text × Bool) : Layout :=
  (layout.setNamed? call.1 call.2).getD layout

inductive Requests (call : Text × Bool) : (setting : Setting) → setting.Value → Prop where
  | hides (element : Element) (names : element.keyword <+: call.1.lower) :
    Requests call (.hides element) call.2

theorem Layout.setNamed?_eq_none_iff (layout : Layout) (text : Text) (hidden : Bool) :
    layout.setNamed? text hidden = none ↔ ∀ element : Element, ¬ element.keyword <+: text.lower := by
  rw [setNamed?, Option.map_eq_none_iff, Option.eq_none_iff_forall_ne_some]
  exact forall_congr' fun element => not_congr (Element.read?_eq_some_iff text element)

theorem Layout.value_request_of_requests (layout : Layout) {call : Text × Bool} {setting : Setting}
    {value : setting.Value} (requests : Requests call setting value) :
    (layout.request call).value setting = value := by
  cases requests with
  | hides element names =>
    have named := (Element.read?_eq_some_iff call.1 element).mpr names
    simp [request, setNamed?, named, Layout.value, setHidden]

theorem Layout.value_request_of_not_requests (layout : Layout) {call : Text × Bool}
    {setting : Setting} (none : ∀ value, ¬ Requests call setting value) :
    (layout.request call).value setting = layout.value setting := by
  unfold request setNamed?
  cases named : Element.read? call.1 with
  | none => rfl
  | some element =>
    have names := (Element.read?_eq_some_iff call.1 element).mp named
    cases setting with
    | short | explained | dates => rfl
    | hides other =>
      have apart : other ≠ element := by
        rintro rfl
        exact none call.2 (.hides other names)
      simp [Layout.value, setHidden, apart]

/-- Each setting of a layout has the value that the last line to name it gives, or its first value
when none does. The lines about the layout are those that add nothing else, and without them a
document answers alike. Requests to hide or to show elements follow the same law. -/
theorem Query.layout_last_write_wins (fields : List Field) (source : Text) (query : Query)
    (read : Query.read fields source = .ok query) :
    (∀ setting : Setting, LastWritten (fun raw value => Assigns raw.trim setting value)
      (({} : Layout).value setting) source.lines (query.layout.value setting)) ∧
    (∀ raw ∈ source.lines, AboutLayout raw.trim ↔
      isRemark raw.trim = false ∧ raw.trim ∉ filterLines fields source ∧
        raw.trim ∉ sortLines fields source ∧ raw.trim ∉ groupLines fields source) ∧
    (∃ rest, Query.read fields (withoutLayout source) = .ok rest ∧
      ∀ {α : Type} (task : α → Task) (items : List α),
        rest.apply task items = query.apply task items) ∧
    (∀ (text : Text) (element other : Element), element.keyword <+: text.lower →
      other.keyword <+: text.lower → element = other) ∧
    ∀ first : Layout,
      (∀ (calls : List (Text × Bool)) (setting : Setting),
        LastWritten (fun call value => Requests call setting value) (first.value setting) calls
          ((calls.foldl Layout.request first).value setting)) ∧
      ∀ text hidden, (first.setNamed? text hidden = none ↔
          ∀ element : Element, ¬ element.keyword <+: text.lower) ∧
        (first.setNamed? text hidden = none → first.request (text, hidden) = first) := by
  refine ⟨?_, aboutLayout_iff read, Query.read_withoutLayout read, ?_, ?_⟩
  · intro setting
    obtain ⟨directives, run, rfl⟩ := Query.exists_run read
    exact run.layout directives rfl {} setting
  · intro text element other
    exact Element.eq_of_keyword
  · intro first
    refine ⟨?_, ?_⟩
    · intro calls setting
      exact lastWritten_foldl Layout.request (·.value setting)
        (fun layout _ _ => layout.value_request_of_requests)
        (fun layout _ => layout.value_request_of_not_requests) first calls
    · intro text hidden
      refine ⟨first.setNamed?_eq_none_iff text hidden, ?_⟩
      intro refused
      rw [Layout.request, refused]
      rfl

def restyled : Text :=
  "hide Toolbars\ntop3 display LATEST\nno top3 date\n# short\nSHOW Tree\nshow toolbar"

theorem restyled_last_write_wins :
    ∃ query : Query, Query.read [yearEndField.field] restyled = .ok query ∧
      LastWritten (fun raw value => Assigns raw.trim (.hides .toolbar) value) true restyled.lines
        false ∧
      query.layout.value (.hides .toolbar) = false ∧
      withoutLayout restyled = "no top3 date\n# short" ∧
      ∃ rest, Query.read [yearEndField.field] "no top3 date\n# short" = .ok rest ∧
        rest.apply id [⟨"tea", [], 1⟩] = query.apply id [⟨"tea", [], 1⟩] := by
  obtain ⟨query, read, shown⟩ : ∃ query, Query.read [yearEndField.field] restyled = .ok query ∧
      query.layout.value (.hides .toolbar) = false :=
    ⟨_, by with_unfolding_all rfl, by with_unfolding_all rfl⟩
  have shorter : withoutLayout restyled = "no top3 date\n# short" := by
    with_unfolding_all rfl
  obtain ⟨settings, _, ⟨rest, behind, alike⟩, _⟩ :=
    Query.layout_last_write_wins [yearEndField.field] restyled query read
  have toolbar := settings (.hides .toolbar)
  rw [shown] at toolbar
  rw [shorter] at behind
  exact ⟨query, read, toolbar, shown, shorter, rest, behind, alike id _⟩

end TaskQuery
