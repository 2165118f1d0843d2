import TaskQuery.Proofs.Json.Record
import TaskQuery.Task.File

set_option autoImplicit false

namespace TaskQuery

namespace Task

def WritesDate (json : Json) (date : Date) : Prop :=
  ∃ cs, json.text? = some cs ∧ Date.ofIso? cs = some date

/-- The fields of a record that tells a task. A field that is asked for stands there at most once;
the dates may be missing, and the count may be missing or null. -/
structure Tells (fields : List (Text × Json)) (task : Task) : Prop where
  once : ∀ key ∈ keys, fields.countP (·.1 = key) ≤ 1
  description : ∃ value, (Text.ofString "description", value) ∈ fields ∧
    value.text? = some task.description
  dates : (∃ items, (Text.ofString "top3_dates", Json.array items) ∈ fields ∧
      List.Forall₂ WritesDate items task.dates) ∨
    (∀ value, (Text.ofString "top3_dates", value) ∉ fields) ∧ task.dates = []
  count : (∃ literal, (Text.ofString "top3_count", .scalar (.number literal)) ∈ fields ∧
      literal.isNumber = true ∧ literal.value = task.count ∧ task.count < UInt64.size) ∨
    (∀ value, (Text.ofString "top3_count", value) ∈ fields → value = .null) ∧
      task.count = task.dates.length

theorem readDate?_eq_some (json : Json) (date : Date) :
    readDate? json = some date ↔ WritesDate json date :=
  Option.bind_eq_some_iff

theorem readDates?_eq_some (json : Json) (dates : List Date) :
    readDates? json = some dates ↔
      ∃ items, json = .array items ∧ List.Forall₂ WritesDate items dates := by
  cases json <;> simp [readDates?, Json.items?, mapM_eq_some_iff, readDate?_eq_some]

theorem countOf?_eq_some (digits : Text) (count : Nat) : countOf? digits = some count ↔
    digits.isNumber = true ∧ digits.value = count ∧ count < UInt64.size := by
  unfold countOf?
  split
  next fits =>
    rw [Option.some.injEq]
    constructor
    · rintro rfl
      exact ⟨fits.1, rfl, fits.2⟩
    · exact fun told => told.2.1
  next unfit =>
    refine ⟨nofun, ?_⟩
    rintro ⟨number, rfl, bounded⟩
    exact absurd ⟨number, bounded⟩ unfit

theorem readCount?_eq_some (found : Option Json) (count? : Option Nat) :
    readCount? found = some count? ↔
      (∃ literal count, found = some (.scalar (.number literal)) ∧ count? = some count ∧
        literal.isNumber = true ∧ literal.value = count ∧ count < UInt64.size) ∨
      (∀ value, found = some value → value = .null) ∧ count? = none := by
  match found with
  | none => simpa [readCount?] using eq_comm
  | some (.scalar .null) => simpa [readCount?] using eq_comm
  | some (.scalar (.number literal)) =>
    simp only [readCount?, Json.literal?, Option.bind_some, Option.map_eq_some_iff,
      countOf?_eq_some]
    constructor
    · rintro ⟨count, told, rfl⟩
      exact .inl ⟨literal, count, rfl, rfl, told⟩
    · rintro (⟨_, count, ⟨⟩, rfl, told⟩ | ⟨empty, _⟩)
      · exact ⟨count, told, rfl⟩
      · cases empty _ rfl
  | some (.scalar (.bool _)) => simp [readCount?, Json.literal?]
  | some (.scalar (.string _)) => simp [readCount?, Json.literal?]
  | some (.array _) => simp [readCount?, Json.literal?]
  | some (.object _) => simp [readCount?, Json.literal?]

theorem ofJson?_eq_some (json : Json) (task : Task) : ofJson? json = some task ↔
    ∃ description dates count given, json.members? keys = some [some description, dates, count] ∧
      description.text? = some task.description ∧
      (dates.map readDates?).getD (some []) = some task.dates ∧
      readCount? count = some given ∧ task.count = given.getD task.dates.length := by
  simp only [ofJson?, Option.bind_eq_bind, Option.bind_eq_some_iff, Option.pure_def]
  constructor
  · rintro ⟨values, held, run⟩
    split at run
    next description dates count =>
      simp only [Option.bind_eq_some_iff, Option.some.injEq] at run
      obtain ⟨words, described, days, dated, given, counted, rfl⟩ := run
      exact ⟨description, dates, count, given, held, described, dated, counted, rfl⟩
    next => cases run
  · rintro ⟨description, dates, count, given, held, described, dated, counted, total⟩
    refine ⟨_, held, ?_⟩
    simp [described, dated, counted, ← total]

theorem keys_nodup : keys.Nodup := by
  simp only [keys, Text.ofString_eq]
  decide

section

variable {fields : List (Text × Json)} {key : Text} {found : Option Json}
  (held : Json.member? fields key = some found)

include held

theorem given_dates_iff (dates : List Date) :
    (found.map readDates?).getD (some []) = some dates ↔
      (∃ items, (key, Json.array items) ∈ fields ∧ List.Forall₂ WritesDate items dates) ∨
        (∀ value, (key, value) ∉ fields) ∧ dates = [] := by
  simp only [((Json.member?_eq_some _ _ _).mp held).2]
  cases found with
  | none => simp [eq_comm]
  | some json => simp [readDates?_eq_some]

theorem given_count_iff (count usual : Nat) :
    (∃ given, readCount? found = some given ∧ count = given.getD usual) ↔
      (∃ literal, (key, .scalar (.number literal)) ∈ fields ∧ literal.isNumber = true ∧
        literal.value = count ∧ count < UInt64.size) ∨
      (∀ value, (key, value) ∈ fields → value = .null) ∧ count = usual := by
  simp only [((Json.member?_eq_some _ _ _).mp held).2, readCount?_eq_some]
  constructor
  · rintro ⟨_, ⟨literal, number, known, rfl, told⟩ | ⟨empty, rfl⟩, rfl⟩
    · exact .inl ⟨literal, known, told⟩
    · exact .inr ⟨empty, rfl⟩
  · rintro (⟨literal, known, told⟩ | ⟨empty, rfl⟩)
    · exact ⟨some count, .inl ⟨literal, count, known, rfl, told⟩, rfl⟩
    · exact ⟨none, .inr ⟨empty, rfl⟩, rfl⟩

end

theorem tells_iff (fields : List (Text × Json)) (task : Task) : Tells fields task ↔
    ∃ description dates count given,
      keys.mapM (Json.member? fields) = some [some description, dates, count] ∧
      description.text? = some task.description ∧
      (dates.map readDates?).getD (some []) = some task.dates ∧
      readCount? count = some given ∧ task.count = given.getD task.dates.length := by
  simp only [mapM_eq_some_iff, keys, List.forall₂_cons, List.forall₂_nil_left_iff, and_true]
  constructor
  · intro tells
    have held (key : Text) (member : key ∈ keys) :=
      Json.exists_member? fields key (tells.once key member)
    obtain ⟨description, described⟩ := held "description" (by simp [keys])
    obtain ⟨dates, dated⟩ := held "top3_dates" (by simp [keys])
    obtain ⟨count, counted⟩ := held "top3_count" (by simp [keys])
    obtain ⟨value, inside, words⟩ := tells.description
    obtain rfl : description = some value :=
      (((Json.member?_eq_some _ _ _).mp described).2 value).mp inside
    have days := (given_dates_iff dated task.dates).mpr tells.dates
    obtain ⟨given, read, total⟩ := (given_count_iff counted _ _).mpr tells.count
    exact ⟨value, dates, count, given, ⟨described, dated, counted⟩, words, days, read, total⟩
  · rintro ⟨description, dates, count, given, ⟨described, dated, counted⟩, words, days, read, total⟩
    have under := (Json.member?_eq_some _ _ _).mp described
    have once := ((Json.member?_eq_some _ _ _).mp dated).1
    have once' := ((Json.member?_eq_some _ _ _).mp counted).1
    constructor
    · simpa [keys] using ⟨under.1, once, once'⟩
    · exact ⟨description, (under.2 _).mpr rfl, words⟩
    · exact (given_dates_iff dated task.dates).mp days
    · exact (given_count_iff counted _ _).mp ⟨given, read, total⟩

theorem ofJson?_iff_tells (json : Json) (task : Task) :
    ofJson? json = some task ↔ ∃ fields, json.Fields keys fields ∧ Tells fields task := by
  simp only [ofJson?_eq_some, Json.members?_eq_some keys keys_nodup, tells_iff]
  constructor
  · rintro ⟨description, dates, count, given, ⟨fields, known, held⟩, told⟩
    exact ⟨fields, known, description, dates, count, given, held, told⟩
  · rintro ⟨fields, known, description, dates, count, given, held, told⟩
    exact ⟨description, dates, count, given, ⟨fields, known, held⟩, told⟩

theorem ofJson?_known (json : Json) : ofJson? (json.known keys) = ofJson? json := by
  rw [ofJson?, ofJson?, Json.members?_known]

section

variable {content : Text} {items : List Json} (whole : Json.read? content = some (.array items))

include whole

theorem load_array :
    load (some content) = (items.mapM ofJson?).elim (.error .malformed) .ok := by
  simp only [load, readFile?, whole, Option.bind_some, Json.items?]
  cases items.mapM ofJson? <;> rfl

theorem load_eq_ok (tasks : List Task) : load (some content) = .ok tasks ↔
    List.Forall₂ (fun item task => ofJson? item = some task) items tasks := by
  rw [load_array whole, ← mapM_eq_some_iff]
  cases items.mapM ofJson? <;> simp

theorem load_isOk :
    (load (some content)).isOk ↔ ∀ item ∈ items, (ofJson? item).isSome := by
  rw [load_array whole, ← isSome_mapM]
  cases items.mapM ofJson? <;> simp [Except.isOk, Except.toBool]

theorem load_malformed : load (some content) = .error .malformed ↔
    ¬ (load (some content)).isOk := by
  rw [load_array whole]
  cases items.mapM ofJson? <;> simp [Except.isOk, Except.toBool]

end

section

variable {alone : List Text} {items : List Json}
  (each : List.Forall₂ (fun text item => Json.read? text = some (.array [item])) alone items)

include each

theorem all_isOk_alone :
    (∀ text ∈ alone, (load (some text)).isOk) ↔ ∀ item ∈ items, (ofJson? item).isSome := by
  induction each with
  | nil => simp
  | cons single _ ih =>
    rw [List.forall_mem_cons, List.forall_mem_cons, ih, load_isOk single, List.forall_mem_singleton]

theorem exists_parts_alone (tasks : List Task) :
    List.Forall₂ (fun item task => ofJson? item = some task) items tasks ↔
      ∃ parts, List.Forall₂ (fun text part => load (some text) = .ok part) alone parts ∧
        tasks = parts.flatten := by
  induction each generalizing tasks with
  | nil => simp
  | cons single _ ih =>
    constructor
    · rintro (_ | ⟨first, rest⟩)
      obtain ⟨parts, later, rfl⟩ := (ih _).mp rest
      exact ⟨[_] :: parts, .cons ((load_eq_ok single _).mpr (.cons first .nil)) later, rfl⟩
    · rintro ⟨_, _ | ⟨first, later⟩, rfl⟩
      obtain _ | ⟨known, ⟨⟩⟩ := (load_eq_ok single _).mp first
      exact .cons known ((ih _).mpr ⟨_, later, rfl⟩)

end

/-- A file is loaded record by record, and one bad record spoils it. A task is what the fields of
its record tell; fields that nobody asks for say nothing. -/
theorem load_elementwise {content : Text} {items : List Json}
    (whole : Json.read? content = some (.array items)) {alone : List Text}
    (each : List.Forall₂ (fun text item => Json.read? text = some (.array [item])) alone items) :
    ((load (some content)).isOk ↔ ∀ text ∈ alone, (load (some text)).isOk) ∧
    (∀ tasks, load (some content) = .ok tasks ↔ ∃ parts,
      List.Forall₂ (fun text part => load (some text) = .ok part) alone parts ∧
        tasks = parts.flatten) ∧
    (∀ text ∈ alone, load (some text) = .error .malformed →
      load (some content) = .error .malformed) ∧
    (∀ tasks, load (some content) = .ok tasks ↔
      List.Forall₂ (fun item task => ∃ fields, item.Fields keys fields ∧ Tells fields task)
        items tasks) ∧
    ∀ (other : Text) (others : List Json), Json.read? other = some (.array others) →
      others.map (Json.known keys) = items.map (Json.known keys) →
      load (some other) = load (some content) := by
  have success : (load (some content)).isOk ↔ ∀ text ∈ alone, (load (some text)).isOk := by
    rw [load_isOk whole, all_isOk_alone each]
  refine ⟨success, ?_, ?_, ?_, ?_⟩
  · intro tasks
    rw [load_eq_ok whole, exists_parts_alone each]
  · intro text member bad
    rw [load_malformed whole, success]
    intro good
    have fine := good text member
    rw [bad] at fine
    cases fine
  · intro tasks
    simp only [load_eq_ok whole, ofJson?_iff_tells]
  · intro other others read same
    have told (list : List Json) :
        (list.map (Json.known keys)).mapM ofJson? = list.mapM ofJson? := by
      rw [List.mapM_map]
      exact mapM_congr fun item _ => ofJson?_known item
    rw [load_array read, load_array whole, ← told others, same, told items]

end Task

def teaRecord : Json :=
  .record [("note", .null), ("top3_dates", .array [.text "2024-02-06"]), ("top3_count", .null),
    ("description", .text "tea")]

def ryeRecord : Json :=
  .array [.text "rye", .array [], .nat 7]

def teaTask : Task :=
  ⟨"tea", [⟨2024, 2, 6, by decide⟩], 1⟩

def teaText : Text :=
  "\x7b\"note\":null,\"top3_dates\":[\"2024-02-06\"],\"top3_count\":null,\"description\":\"tea\"\x7d"

def ryeText : Text :=
  "[\"rye\",[],7]"

theorem tea_and_rye_load :
    Json.read? ("[" ++ teaText ++ ", " ++ ryeText ++ "]") = some (.array [teaRecord, ryeRecord]) ∧
      Json.read? ("[" ++ teaText ++ "]") = some (.array [teaRecord]) ∧
      Json.read? ("[" ++ ryeText ++ "]") = some (.array [ryeRecord]) ∧
      Task.load (some ("[" ++ teaText ++ ", " ++ ryeText ++ "]")) =
        .ok [teaTask, ⟨"rye", [], 7⟩] ∧
      ∃ fields, teaRecord.Fields Task.keys fields ∧ Task.Tells fields teaTask := by
  have whole : Json.read? ("[" ++ teaText ++ ", " ++ ryeText ++ "]") =
      some (.array [teaRecord, ryeRecord]) := by
    with_unfolding_all rfl
  have tea : Json.read? ("[" ++ teaText ++ "]") = some (.array [teaRecord]) := by
    with_unfolding_all rfl
  have rye : Json.read? ("[" ++ ryeText ++ "]") = some (.array [ryeRecord]) := by
    with_unfolding_all rfl
  obtain ⟨_, parts, _, told, _⟩ := Task.load_elementwise whole (.cons tea (.cons rye .nil))
  have loaded : Task.load (some ("[" ++ teaText ++ ", " ++ ryeText ++ "]")) =
      .ok [teaTask, ⟨"rye", [], 7⟩] := by
    refine (parts _).mpr ⟨[[teaTask], [⟨"rye", [], 7⟩]], .cons ?_ (.cons ?_ .nil), rfl⟩
    · with_unfolding_all rfl
    · with_unfolding_all rfl
  obtain _ | ⟨first, _⟩ := (told _).mp loaded
  exact ⟨whole, tea, rye, loaded, first⟩

end TaskQuery
