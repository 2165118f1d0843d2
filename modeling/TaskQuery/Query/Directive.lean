import TaskQuery.Layout

set_option autoImplicit false

namespace TaskQuery

structure Sorter where
  property : Text
  order : Task → Task → Ordering
  reverse : Bool

def Sorter.compare (sorter : Sorter) (a b : Task) : Ordering :=
  if sorter.reverse then (sorter.order a b).swap else sorter.order a b

structure Grouper where
  property : Text
  headings : Task → List Text

inductive Directive where
  | explain
  | short (short : Bool)
  | visibility (element : Element) (hidden : Bool)
  | display (dates : DateDisplay)
  | sort (sorter : Sorter)
  | group (grouper : Grouper)
  | filter (filter : Filter)

namespace Directive

def phrases : List (Text × Directive) :=
  [("explain", explain), ("short mode", short true), ("short", short true),
    ("full mode", short false), ("full", short false)]

def readVisibility (hidden : Bool) (cs : Text) : Except Problem Directive :=
  match Element.read? cs with
  | some element => .ok (visibility element hidden)
  | none => .error .unknownElement

def sortBy (fields : List Field) (property : Text) (reverse : Bool) : Except Problem Directive :=
  match (Field.find? fields property).bind Field.compare? with
  | some order => .ok (sort ⟨property, order, reverse⟩)
  | none => .error (.unsortable property)

def readSort (fields : List Field) (cs : Text) : Except Problem Directive :=
  match Text.words cs with
  | [] => sortBy fields [] false
  | [property] => sortBy fields property false
  | [property, word] =>
    if word = Text.ofString "reverse" then sortBy fields property true else .error .unknownLine
  | _ => .error .unknownLine

def groupBy (fields : List Field) (property : Text) : Except Problem Directive :=
  match (Field.find? fields property).bind Field.headings? with
  | some headings => .ok (group ⟨property, headings⟩)
  | none => .error (.ungroupable property)

/-- The openings that no field is asked about, each with the reader of what follows it. -/
def openings (fields : List Field) : List (Text × (Text → Except Problem Directive)) :=
  [("hide ", readVisibility true), ("show ", readVisibility false),
    ("top3 display ", fun cs => (DateDisplay.read cs).map display),
    ("sort by ", readSort fields), ("group by ", fun cs => groupBy fields (Text.trim cs))]

def reserved? (fields : List Field) (lowered : Text) : Option (Except Problem Directive) :=
  ((phrases.lookup lowered).map .ok).or
    ((openings fields).findSome? fun (opening, read) => (opening.strip? lowered).map read)

/-- The first field to recognize a line speaks for it, even if it cannot compile it. -/
def readFilter (fields : List Field) (line : Text) : Except CompileError Directive :=
  match fields.find? (·.recognizes line) with
  | some field => (field.compile line).map filter
  | none => .error ⟨line, .unknownLine⟩

def read (fields : List Field) (line : Text) : Except CompileError Directive :=
  match reserved? fields line.lower with
  | some result => result.mapError (CompileError.mk line)
  | none => readFilter fields line

end Directive
end TaskQuery
