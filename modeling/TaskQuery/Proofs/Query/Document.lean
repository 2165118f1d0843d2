import Mathlib.Data.List.Forall2
import TaskQuery.DateField.Basic
import TaskQuery.Proofs.Text.Blank
import TaskQuery.Proofs.Text.Lines
import TaskQuery.Query.Basic

set_option autoImplicit false

namespace TaskQuery

def said (lines : List Text) : List Text :=
  (lines.map Text.trim).filter (!isRemark ·)

theorem said_append (front back : List Text) : said (front ++ back) = said front ++ said back := by
  simp [said]

theorem said_cons (line : Text) (lines : List Text) :
    said (line :: lines) =
      if isRemark line.trim then said lines else line.trim :: said lines := by
  cases remark : isRemark line.trim <;> simp [said, remark]

theorem said_remarks (lines : List Text) (remarks : ∀ line ∈ lines, isRemark line.trim = true) :
    said lines = [] := by
  induction lines with
  | nil => rfl
  | cons line lines ih =>
    rw [List.forall_mem_cons] at remarks
    rw [said_cons, if_pos remarks.1, ih remarks.2]

structure Spoken (line : Text) : Prop where
  whole : '\n' ∉ line
  trimmed : line.trim = line
  speaks : isRemark line = false

theorem spoken_trim (raw : Text) (whole : '\n' ∉ raw) (speaks : isRemark raw.trim = false) :
    Spoken raw.trim :=
  ⟨fun member => whole (raw.mem_of_mem_trim '\n' member), raw.trim_trim, speaks⟩

theorem spoken_of_said (source line : Text) (member : line ∈ said source.lines) : Spoken line := by
  simp only [said, List.mem_filter, List.mem_map, Bool.not_eq_true'] at member
  obtain ⟨⟨raw, inside, rfl⟩, speaks⟩ := member
  exact spoken_trim raw (source.whole_of_mem_lines raw inside) speaks

section

variable (fields : List Field)

def readFrom (number : Nat) (lines : List Text) : Except QueryError (List Directive) :=
  (((lines.map Text.trim).zipIdx number).filter (!isRemark ·.1)).mapM (readLine fields)

theorem Query.read_eq (source : Text) :
    Query.read fields source = (readFrom fields 1 source.lines).map Query.of :=
  rfl

theorem readFrom_remark (number : Nat) (line : Text) (lines : List Text)
    (remark : isRemark line.trim = true) :
    readFrom fields number (line :: lines) = readFrom fields (number + 1) lines := by
  simp [readFrom, List.zipIdx_cons, remark]

theorem readFrom_error (number : Nat) (line : Text) (lines : List Text) (error : CompileError)
    (speaks : isRemark line.trim = false)
    (failed : Directive.read fields line.trim = .error error) :
    readFrom fields number (line :: lines) = .error ⟨number, error⟩ := by
  have read : readLine fields (line.trim, number) = .error ⟨number, error⟩ := by
    rw [readLine, failed]
    rfl
  simp only [readFrom, List.map_cons, List.zipIdx_cons, List.filter_cons, speaks,
    Bool.not_false, if_true, List.mapM_cons, read]
  rfl

theorem readFrom_ok (number : Nat) (line : Text) (lines : List Text) (directive : Directive)
    (speaks : isRemark line.trim = false)
    (understood : Directive.read fields line.trim = .ok directive) :
    readFrom fields number (line :: lines) =
      (readFrom fields (number + 1) lines).map (directive :: ·) := by
  have read : readLine fields (line.trim, number) = .ok directive := by
    rw [readLine, understood]
    rfl
  simp only [readFrom, List.map_cons, List.zipIdx_cons, List.filter_cons, speaks,
    Bool.not_false, if_true, List.mapM_cons, read]
  rfl

theorem readFrom_append (number : Nat) (front back : List Text) :
    readFrom fields number (front ++ back) = do
      let first ← readFrom fields number front
      let later ← readFrom fields (number + front.length) back
      return first ++ later := by
  simp [readFrom, List.zipIdx_append]

/-- What reading the lines from a number on comes to, line by line. -/
inductive ReadsTo : Nat → List Text → Except QueryError (List Directive) → Prop where
  | nil (number : Nat) : ReadsTo number [] (.ok [])
  | remark (number : Nat) (line : Text) (lines : List Text)
    (result : Except QueryError (List Directive)) (silent : isRemark line.trim = true)
    (rest : ReadsTo (number + 1) lines result) : ReadsTo number (line :: lines) result
  | error (number : Nat) (line : Text) (lines : List Text) (error : CompileError)
    (speaks : isRemark line.trim = false)
    (failed : Directive.read fields line.trim = .error error) :
    ReadsTo number (line :: lines) (.error ⟨number, error⟩)
  | ok (number : Nat) (line : Text) (lines : List Text) (directive : Directive)
    (result : Except QueryError (List Directive)) (speaks : isRemark line.trim = false)
    (understood : Directive.read fields line.trim = .ok directive)
    (rest : ReadsTo (number + 1) lines result) :
    ReadsTo number (line :: lines) (result.map (directive :: ·))

theorem readsTo_readFrom (number : Nat) (lines : List Text) :
    ReadsTo fields number lines (readFrom fields number lines) := by
  induction lines generalizing number with
  | nil => exact .nil number
  | cons line lines ih =>
    cases speaks : isRemark line.trim with
    | true =>
      rw [readFrom_remark fields number line lines speaks]
      exact .remark number line lines _ speaks (ih (number + 1))
    | false =>
      cases read : Directive.read fields line.trim with
      | error error =>
        rw [readFrom_error fields number line lines error speaks read]
        exact .error number line lines error speaks read
      | ok directive =>
        rw [readFrom_ok fields number line lines directive speaks read]
        exact .ok number line lines directive _ speaks read (ih (number + 1))

variable {fields} {number : Nat} {lines : List Text} {result : Except QueryError (List Directive)}

theorem ReadsTo.eq (run : ReadsTo fields number lines result) :
    readFrom fields number lines = result := by
  induction run with
  | nil number => rfl
  | remark number line lines result silent rest ih =>
    rw [readFrom_remark fields number line lines silent, ih]
  | error number line lines error speaks failed =>
    exact readFrom_error fields number line lines error speaks failed
  | ok number line lines directive result speaks understood rest ih =>
    rw [readFrom_ok fields number line lines directive speaks understood, ih]

theorem ReadsTo.directives (run : ReadsTo fields number lines result)
    (directives : List Directive) (success : result = .ok directives) :
    List.Forall₂ (fun line directive => Directive.read fields line = .ok directive)
      (said lines) directives := by
  induction run generalizing directives with
  | nil number =>
    cases success
    exact .nil
  | remark number line lines result silent rest ih =>
    rw [said_cons, if_pos silent]
    exact ih directives success
  | error number line lines error speaks failed => cases success
  | ok number line lines directive result speaks understood rest ih =>
    rw [said_cons, speaks, if_neg Bool.false_ne_true]
    cases result with
    | error error => cases success
    | ok later =>
      cases success
      exact .cons understood (ih later rfl)

theorem ReadsTo.success (run : ReadsTo fields number lines result)
    (understood : ∀ line ∈ said lines, ∃ directive, Directive.read fields line = .ok directive) :
    ∃ directives, result = .ok directives := by
  induction run with
  | nil number => exact ⟨[], rfl⟩
  | remark number line lines result silent rest ih =>
    rw [said_cons, if_pos silent] at understood
    exact ih understood
  | error number line lines error speaks failed =>
    rw [said_cons, speaks, if_neg Bool.false_ne_true, List.forall_mem_cons, failed] at understood
    obtain ⟨⟨_, impossible⟩, _⟩ := understood
    cases impossible
  | ok number line lines directive result speaks read rest ih =>
    rw [said_cons, speaks, if_neg Bool.false_ne_true, List.forall_mem_cons] at understood
    obtain ⟨later, rfl⟩ := ih understood.2
    exact ⟨directive :: later, rfl⟩

theorem ReadsTo.first_error (run : ReadsTo fields number lines result) (error : QueryError)
    (failure : result = .error error) :
    ∃ front raw back, lines = front ++ raw :: back ∧ isRemark raw.trim = false ∧
      (∀ line ∈ said front, ∃ directive, Directive.read fields line = .ok directive) ∧
      Directive.read fields raw.trim = .error error.error ∧
      error.number = number + front.length := by
  induction run with
  | nil number => cases failure
  | remark number line lines result silent rest ih =>
    obtain ⟨front, raw, back, rfl, speaks, understood, failed, place⟩ := ih failure
    refine ⟨line :: front, raw, back, rfl, speaks, ?_, failed, ?_⟩
    · rwa [said_cons, if_pos silent]
    · rw [place, List.length_cons]
      omega
  | error number line lines problem speaks failed =>
    cases failure
    exact ⟨[], line, lines, rfl, speaks, by simp [said], failed, rfl⟩
  | ok number line lines directive result speaks read rest ih =>
    cases result with
    | ok later => cases failure
    | error problem =>
      cases failure
      obtain ⟨front, raw, back, rfl, rawSpeaks, understood, failed, place⟩ := ih rfl
      refine ⟨line :: front, raw, back, rfl, rawSpeaks, ?_, failed, ?_⟩
      · rw [said_cons, speaks, if_neg Bool.false_ne_true, List.forall_mem_cons]
        exact ⟨⟨directive, read⟩, understood⟩
      · rw [place, List.length_cons]
        omega

def QueryError.later (count : Nat) (error : QueryError) : QueryError :=
  { error with number := error.number + count }

theorem ReadsTo.later (run : ReadsTo fields number lines result) (count : Nat) :
    ReadsTo fields (number + count) lines (result.mapError (·.later count)) := by
  induction run with
  | nil number => exact .nil _
  | remark number line lines result silent rest ih =>
    rw [Nat.add_right_comm] at ih
    exact .remark _ line lines _ silent ih
  | error number line lines error speaks failed => exact .error _ line lines error speaks failed
  | ok number line lines directive result speaks understood rest ih =>
    rw [Nat.add_right_comm] at ih
    have read := ReadsTo.ok _ line lines directive _ speaks understood ih
    cases result <;> exact read

theorem readFrom_first_error (front back : List Text) (raw : Text)
    (error : CompileError) (speaks : isRemark raw.trim = false)
    (understood : ∀ line ∈ said front, ∃ directive, Directive.read fields line = .ok directive)
    (failed : Directive.read fields raw.trim = .error error) :
    readFrom fields number (front ++ raw :: back) = .error ⟨number + front.length, error⟩ := by
  obtain ⟨directives, first⟩ := (readsTo_readFrom fields number front).success understood
  rw [readFrom_append, first, readFrom_error fields _ raw back error speaks failed]
  rfl

end

section

variable {fields : List Field} {source : Text}

theorem Query.exists_run {query : Query} (read : Query.read fields source = .ok query) :
    ∃ directives, ReadsTo fields 1 source.lines (.ok directives) ∧ query = Query.of directives := by
  have run := readsTo_readFrom fields 1 source.lines
  rw [Query.read_eq] at read
  cases lines : readFrom fields 1 source.lines with
  | error error => simp [lines, Except.map] at read
  | ok directives =>
    rw [lines] at read run
    cases read
    exact ⟨directives, run, rfl⟩

theorem Query.failed_run {error : QueryError} (read : Query.read fields source = .error error) :
    ReadsTo fields 1 source.lines (.error error) := by
  have run := readsTo_readFrom fields 1 source.lines
  rw [Query.read_eq] at read
  cases lines : readFrom fields 1 source.lines with
  | error problem =>
    rw [lines] at read run
    cases read
    exact run
  | ok directives => simp [lines, Except.map] at read

end

section

variable (fields : List Field)

theorem Query.read_insert (source other : Text) (front remarks back : List Text)
    (shape : source.lines = front ++ back) (inserted : other.lines = front ++ remarks ++ back)
    (silent : ∀ remark ∈ remarks, isRemark remark.trim = true) :
    Query.read fields other = (Query.read fields source).mapError fun error =>
      if error.number ≤ front.length then error else error.later remarks.length := by
  have skipped : readFrom fields (1 + front.length) remarks = .ok [] := by
    obtain ⟨directives, read⟩ := (readsTo_readFrom fields (1 + front.length) remarks).success
      (by simp [said_remarks remarks silent])
    have nothing := (readsTo_readFrom fields _ remarks).directives directives read
    rw [said_remarks remarks silent] at nothing
    cases nothing
    exact read
  have behind := ((readsTo_readFrom fields (1 + front.length) back).later remarks.length).eq
  rw [Query.read_eq, Query.read_eq, shape, inserted, List.append_assoc, readFrom_append,
    readFrom_append, readFrom_append, skipped, behind]
  cases first : readFrom fields 1 front with
  | error error =>
    obtain ⟨_, _, _, split, _, _, _, place⟩ :=
      (readsTo_readFrom fields 1 front).first_error error first
    have early : error.number ≤ front.length := by
      rw [place, split, List.length_append, List.length_cons]
      omega
    simp [bind, Except.bind, Except.map, Except.mapError, early]
  | ok directives =>
    cases rest : readFrom fields (1 + front.length) back with
    | error error =>
      obtain ⟨_, _, _, _, _, _, _, place⟩ :=
        (readsTo_readFrom fields (1 + front.length) back).first_error error rest
      have late : ¬ error.number ≤ front.length := by omega
      simp [bind, Except.bind, Except.map, Except.mapError, late]
    | ok later => rfl

theorem Query.read_spoken (line : Text) (spoken : Spoken line) :
    Query.read fields line = match Directive.read fields line with
      | .ok directive => .ok (Query.of [directive])
      | .error error => .error ⟨1, error⟩ := by
  obtain ⟨whole, trimmed, speaks⟩ := spoken
  rw [Query.read_eq, Text.lines_whole line whole]
  rw [← trimmed] at speaks
  cases read : Directive.read fields line with
  | error error =>
    rw [← trimmed] at read
    rw [readFrom_error fields 1 line [] error speaks read]
    rfl
  | ok directive =>
    rw [← trimmed] at read
    rw [readFrom_ok fields 1 line [] directive speaks read]
    rfl

theorem Query.read_spoken_error (line : Text) (spoken : Spoken line) (error : CompileError) :
    Query.read fields line = .error ⟨1, error⟩ ↔ Directive.read fields line = .error error := by
  rw [Query.read_spoken fields line spoken]
  cases Directive.read fields line <;> simp

theorem Query.exists_read_spoken (line : Text) (spoken : Spoken line) :
    (∃ query, Query.read fields line = .ok query) ↔
      ∃ directive, Directive.read fields line = .ok directive := by
  rw [Query.read_spoken fields line spoken]
  cases Directive.read fields line <;> simp

theorem Query.lists_foldl (directives : List Directive) (query : Query) :
    (directives.foldl Query.add query).filters =
        query.filters ++ directives.flatMap (Query.of [·] |>.filters) ∧
      (directives.foldl Query.add query).sorters =
        query.sorters ++ directives.flatMap (Query.of [·] |>.sorters) ∧
      (directives.foldl Query.add query).groupers =
        query.groupers ++ directives.flatMap (Query.of [·] |>.groupers) := by
  induction directives generalizing query with
  | nil => simp
  | cons directive directives ih =>
    obtain ⟨filters, sorters, groupers⟩ := ih (query.add directive)
    rw [List.foldl_cons, filters, sorters, groupers]
    cases directive <;> simp [Query.add, Query.of]

theorem Query.exists_parts (source : Text) (query : Query)
    (read : Query.read fields source = .ok query) :
    ∃ parts : List Query,
      List.Forall₂ (fun line part => Query.read fields line = .ok part) (said source.lines) parts ∧
      query.filters = parts.flatMap Query.filters ∧
      query.sorters = parts.flatMap Query.sorters ∧
      query.groupers = parts.flatMap Query.groupers := by
  obtain ⟨directives, run, rfl⟩ := Query.exists_run read
  refine ⟨directives.map (Query.of [·]), ?_, ?_⟩
  · rw [List.forall₂_map_right_iff]
    have each := run.directives directives rfl
    have spoken := (List.forall₂_and_left _ _).mpr ⟨spoken_of_said source, each⟩
    refine spoken.imp ?_
    intro line directive ⟨alone, read⟩
    rw [Query.read_spoken fields line alone, read]
  · have lists := Query.lists_foldl directives {}
    simpa [Query.of, List.flatMap_map] using lists

theorem said_before {before : Text} {front : List Text} (lead : before.lines = front ++ [[]]) :
    before.count '\n' = front.length ∧ said before.lines = said front := by
  have count := Text.length_lines before
  rw [lead] at count ⊢
  exact ⟨by simpa using count.symm, by rw [said_append]; exact List.append_nil _⟩

theorem Query.exists_first_error (source : Text) (error : QueryError)
    (read : Query.read fields source = .error error) :
    ∃ before raw after, Text.LineAt before raw after source ∧ isRemark raw.trim = false ∧
      (∀ line ∈ said before.lines, ∃ query, Query.read fields line = .ok query) ∧
      Query.read fields raw.trim = .error ⟨1, error.error⟩ ∧
      error.number = 1 + before.count '\n' := by
  have run := Query.failed_run read
  obtain ⟨front, raw, back, shape, speaks, understood, failed, place⟩ := run.first_error error rfl
  obtain ⟨before, after, lineAt, lead⟩ := Text.exists_lineAt source raw front back shape
  obtain ⟨count, earlier⟩ := said_before lead
  refine ⟨before, raw, after, lineAt, speaks, ?_, ?_, by rw [place, count]⟩
  · intro line member
    rw [Query.exists_read_spoken fields line (spoken_of_said before line member)]
    exact understood line (earlier ▸ member)
  · rwa [Query.read_spoken_error fields raw.trim (spoken_trim raw lineAt.whole speaks)]

theorem Query.read_first_error {before raw after source : Text}
    (lineAt : Text.LineAt before raw after source) (error : CompileError)
    (speaks : isRemark raw.trim = false)
    (understood : ∀ line ∈ said before.lines, ∃ query, Query.read fields line = .ok query)
    (failed : Query.read fields raw.trim = .error ⟨1, error⟩) :
    Query.read fields source = .error ⟨1 + before.count '\n', error⟩ := by
  obtain ⟨front, back, shape, lead⟩ := lineAt.lines_eq
  obtain ⟨count, earlier⟩ := said_before lead
  have readable : ∀ line ∈ said front, ∃ directive, Directive.read fields line = .ok directive := by
    intro line member
    rw [← earlier] at member
    exact (Query.exists_read_spoken fields line (spoken_of_said before line member)).mp
      (understood line member)
  have alone : Directive.read fields raw.trim = .error error :=
    (Query.read_spoken_error fields _ (spoken_trim raw lineAt.whole speaks) error).mp failed
  rw [Query.read_eq, shape, readFrom_first_error front back raw error speaks readable alone, count]
  rfl

theorem Query.read_fails_iff (source : Text) :
    (∃ error, Query.read fields source = .error error) ↔
      ∃ line ∈ said source.lines, ∃ error, Query.read fields line = .error error := by
  constructor
  · intro ⟨error, read⟩
    obtain ⟨before, raw, after, lineAt, speaks, _, failed, _⟩ :=
      Query.exists_first_error fields source error read
    obtain ⟨front, back, shape, _⟩ := lineAt.lines_eq
    refine ⟨raw.trim, ?_, _, failed⟩
    rw [shape, said_append, said_cons, speaks]
    simp
  · intro ⟨line, member, error, failed⟩
    cases read : Query.read fields source with
    | error problem => exact ⟨problem, rfl⟩
    | ok query =>
      obtain ⟨parts, each, _⟩ := Query.exists_parts fields source query read
      have readable := (List.forall₂_and_left _ _).mp
        (each.imp fun line part alone =>
          (⟨⟨part, alone⟩, trivial⟩ : (∃ part, Query.read fields line = .ok part) ∧ True))
      obtain ⟨part, alone⟩ := readable.1 line member
      rw [failed] at alone
      cases alone

end

theorem DateField.error_line (field : DateField) (line : Text) (error : CompileError)
    (failed : field.compile line = .error error) : error.line = line := by
  unfold compile at failed
  split at failed <;> cases failed <;> rfl

theorem Directive.error_line (dateFields : List DateField) (line : Text) (error : CompileError)
    (failed : Directive.read (dateFields.map DateField.field) line = .error error) :
    error.line = line := by
  unfold Directive.read at failed
  split at failed
  next result _ =>
    cases result with
    | error problem =>
      cases failed
      rfl
    | ok directive => cases failed
  next =>
    unfold readFilter at failed
    split at failed
    next field chosen =>
      obtain ⟨dateField, _, rfl⟩ := List.mem_map.mp (List.mem_of_find?_eq_some chosen)
      cases compiled : dateField.compile line with
      | error problem =>
        simp only [DateField.field, compiled, Except.map, Except.error.injEq] at failed
        rw [← failed]
        exact dateField.error_line line problem compiled
      | ok filter => simp [DateField.field, compiled, Except.map] at failed
    next =>
      cases failed
      rfl

/-- A document means what its lines mean alone. The first line that cannot be read decides, and
lines that say nothing only move it down. -/
theorem Query.reads_line_by_line (dates : List DateField) (source : Text) :
    ((∃ error, Query.read (dates.map DateField.field) source = .error error) ↔
      ∃ line ∈ said source.lines, ∃ error,
        Query.read (dates.map DateField.field) line = .error error) ∧
    (∀ error, Query.read (dates.map DateField.field) source = .error error ↔
      ∃ before raw after, Text.LineAt before raw after source ∧ isRemark raw.trim = false ∧
        (∀ line ∈ said before.lines, ∃ query,
          Query.read (dates.map DateField.field) line = .ok query) ∧
        Query.read (dates.map DateField.field) raw.trim = .error ⟨1, error.error⟩ ∧
        error.number = 1 + before.count '\n' ∧ error.error.line = raw.trim) ∧
    (∀ query, Query.read (dates.map DateField.field) source = .ok query →
      ∃ parts : List Query,
        List.Forall₂ (fun line part => Query.read (dates.map DateField.field) line = .ok part)
          (said source.lines) parts ∧
        query.filters = parts.flatMap Query.filters ∧
        query.sorters = parts.flatMap Query.sorters ∧
        query.groupers = parts.flatMap Query.groupers) ∧
    ∀ other front remarks back, source.lines = front ++ back →
      other.lines = front ++ remarks ++ back →
      (∀ remark ∈ remarks, isRemark remark.trim = true) →
      Query.read (dates.map DateField.field) other =
        (Query.read (dates.map DateField.field) source).mapError fun error =>
          if error.number ≤ front.length then error else error.later remarks.length := by
  refine ⟨Query.read_fails_iff _ source, ?_, Query.exists_parts _ source,
    Query.read_insert _ source⟩
  intro error
  constructor
  · intro read
    obtain ⟨before, raw, after, lineAt, speaks, understood, failed, place⟩ :=
      Query.exists_first_error _ source error read
    have alone : Directive.read (dates.map DateField.field) raw.trim = .error error.error :=
      (Query.read_spoken_error _ _ (spoken_trim raw lineAt.whole speaks) _).mp failed
    exact ⟨before, raw, after, lineAt, speaks, understood, failed, place,
      Directive.error_line dates raw.trim error.error alone⟩
  · intro ⟨before, raw, after, lineAt, speaks, understood, failed, place, _⟩
    rw [Query.read_first_error _ lineAt error.error speaks understood failed, ← place]

def yearEndField : DateField :=
  .top3 ⟨2024, 12, 31, by decide⟩

def againField : DateField where
  name := "again"
  today := yearEndField.today
  dates task := task.dates.tail
  count task := task.count - 1

def draft : Text := "# plan\nhas top3 date\n narrow \n\nwide"

def remarkedDraft : Text := "# plan\n\n\t# days\nhas top3 date\n narrow \n\nwide"

theorem mistake_moves_down :
    Query.read [yearEndField.field] draft = .error ⟨3, ⟨"narrow", .unknownLine⟩⟩ ∧
      Query.read [yearEndField.field] remarkedDraft = .error ⟨5, ⟨"narrow", .unknownLine⟩⟩ := by
  obtain ⟨_, first, _, inserted⟩ := Query.reads_line_by_line [yearEndField] draft
  have lineAt : Text.LineAt "# plan\nhas top3 date\n" " narrow " "\n\nwide" draft := by
    simp only [draft, Text.ofString_eq]
    exact ⟨by simp, by decide, .inr ⟨"# plan\nhas top3 date".toList, by simp⟩,
      .inr ⟨"\nwide".toList, by simp⟩⟩
  have understood : ∀ line ∈ said (Text.lines "# plan\nhas top3 date\n"),
      ∃ query, Query.read [yearEndField.field] line = .ok query := by
    have earlier : said (Text.lines "# plan\nhas top3 date\n") =
        [Text.ofString "has top3 date"] := by
      with_unfolding_all rfl
    rw [earlier, List.forall_mem_singleton]
    exact ⟨_, by with_unfolding_all rfl⟩
  have failed : Query.read [yearEndField.field] (Text.trim " narrow ") =
      .error ⟨1, ⟨"narrow", .unknownLine⟩⟩ := by
    with_unfolding_all rfl
  have mistake : Query.read [yearEndField.field] draft =
      .error ⟨3, ⟨"narrow", .unknownLine⟩⟩ := by
    apply (first _).mpr
    refine ⟨_, _, _, lineAt, ?_, understood, failed, ?_, ?_⟩ <;> with_unfolding_all rfl
  have whole : draft.lines =
      ["# plan"] ++ ["has top3 date", " narrow ", "", "wide"] := by
    with_unfolding_all rfl
  have remarked : remarkedDraft.lines =
      ["# plan"] ++ ["", "\t# days"] ++ ["has top3 date", " narrow ", "", "wide"] := by
    with_unfolding_all rfl
  have remarks : ∀ remark ∈ ([Text.ofString "", "\t# days"] : List Text),
      isRemark remark.trim = true := by
    rw [List.forall_mem_cons, List.forall_mem_singleton]
    constructor <;> with_unfolding_all rfl
  have moved : Query.read [yearEndField.field] remarkedDraft = _ :=
    inserted remarkedDraft _ _ _ whole remarked remarks
  rw [List.map_singleton, mistake] at moved
  exact ⟨mistake, moved⟩

end TaskQuery
