import TaskQuery.Calendar.Reading
import TaskQuery.DateField.Condition
import TaskQuery.Phrasebook

set_option autoImplicit false

namespace TaskQuery

/-- A field whose lines speak of the dates and the count that it reads from a task; days such as
`yesterday` are seen from `today`. -/
structure DateField where
  name : Text
  today : Date
  dates : Task → List Date
  count : Task → Nat

def DateField.phrases (field : DateField) : Phrasebook Condition :=
  (Phrasebook.add [] (datedPhrase field.name) .dated).add (undatedPhrase field.name) .undated

def DateField.phrase? (field : DateField) (line : Text) : Option Condition :=
  (field.phrases.entry? line).map (·.2)

-- Signs in the order they are tried: a sign that starts with another stands before it.
def countSigns : List (Text × CountRelation) :=
  [(">=", .atLeast), ("<=", .atMost), (">", .more), ("<", .less), ("=", .exactly),
    ("is", .exactly)]

def CountRelation.ofSign? (sign : Text) : Option CountRelation :=
  countSigns.lookup sign.asciiLower

def countSign? (cs : Text) : Option (Text × Text) :=
  countSigns.findSome? fun (sign, _) =>
    (sign.stripCaseless? cs).map fun rest => (cs.take sign.length, rest)

def DateField.countOf (field : DateField) (sign digits : Text) : Except Problem Condition :=
  match CountRelation.ofSign? sign with
  | none => .error (.unknownOperator sign)
  | some relation =>
    match countOf? digits with
    | none => .error (.badCount field.name)
    | some bound => .ok (.count relation bound)

/-- A line with the name, `count`, a sign and decimal digits of any script; a line of this shape is
about the count even if its number is not one. -/
def DateField.count? (field : DateField) (line : Text) : Option (Except Problem Condition) := do
  let rest ← (field.name ++ " count").stripCaseless? line
  let (sign, rest) ← countSign? (rest.dropWhile isBlank)
  let digits := rest.dropWhile isBlank
  if digits ≠ [] ∧ digits.all isDecimalDigit then some (field.countOf sign digits) else none

def dateKeywords : List (Text × DateRelation) :=
  [("on or before", .onOrBefore), ("in or before", .onOrBefore), ("before", .before),
    ("on or after", .onOrAfter), ("in or after", .onOrAfter), ("after", .after),
    ("on", .on), ("in", .on)]

def dateKeyword? (cs : Text) : Option (DateRelation × Text) :=
  dateKeywords.findSome? fun (word, relation) =>
    (word.stripCaseless? cs).map fun rest => (relation, rest)

def dropSpace : Text → Text
  | ' ' :: cs => cs
  | cs => cs

def DateField.day? (field : DateField) (cs : Text) : Option DateRange :=
  (Date.read? field.today cs).map .single

def DateField.dateOf? (field : DateField) (cs : Text) : Option Condition :=
  let range? := DateRange.read? field.today
  match dateKeyword? cs with
  | some (relation, rest) =>
    ((range? cs).or ((range? (dropSpace rest)).or (field.day? (dropSpace rest)))).map
      (.latest relation)
  | none => ((range? cs).or (field.day? (dropSpace cs))).map (.latest .on)

/-- Every line that starts with the name and a space is about a date; it ends at a line break. -/
def DateField.date? (field : DateField) (line : Text) : Option (Except Problem Condition) := do
  let rest ← (field.name ++ " ").stripCaseless? line
  match field.dateOf? (rest.takeWhile (· ≠ '\n')) with
  | some condition => return .ok condition
  | none => return .error (.badDate field.name)

def DateField.read? (field : DateField) (line : Text) : Option (Except Problem Condition) :=
  ((field.phrase? line).map .ok).or ((field.count? line).or (field.date? line))

def DateField.accepts (field : DateField) (condition : Condition) (task : Task) : Bool :=
  condition.accepts (field.dates task) (field.count task)

def DateField.compile (field : DateField) (line : Text) : Except CompileError Filter :=
  match field.read? line with
  | none => .error ⟨line, .notAbout field.name⟩
  | some (.error problem) => .error ⟨line, problem⟩
  | some (.ok condition) => .ok ⟨line, field.accepts condition, condition.explain field.name⟩

-- Each grammar is asked on its own, without what it makes of the line.
def DateField.recognizes (field : DateField) (line : Text) : Bool :=
  field.phrases.recognizes line || (field.count? line).isSome || (field.date? line).isSome

theorem DateField.recognizes_eq (field : DateField) (line : Text) :
    field.recognizes line = (field.read? line).isSome := by
  simp [recognizes, read?, phrase?, Phrasebook.recognizes, Option.isSome_or, Bool.or_assoc]

end TaskQuery
