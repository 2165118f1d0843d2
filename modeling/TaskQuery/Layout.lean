import TaskQuery.Filter
import TaskQuery.Text.Blank
import TaskQuery.Text.Letter

set_option autoImplicit false

namespace TaskQuery

inductive DateDisplay where
  | all | latest | count
  deriving DecidableEq, Repr

def DateDisplay.word : DateDisplay → Text
  | .all => "all"
  | .latest => "latest"
  | .count => "count"

def DateDisplay.ofWord? (word : Text) : Option DateDisplay :=
  [all, latest, count].find? (·.word = word)

theorem DateDisplay.ofWord?_word (display : DateDisplay) : ofWord? display.word = some display := by
  cases display <;> simp [ofWord?, word, Text.ofString_eq]

def DateDisplay.read (cs : Text) : Except Problem DateDisplay :=
  let word := (Text.trim cs).asciiLower
  match ofWord? word with
  | some display => .ok display
  | none => .error (.unknownDisplay word)

inductive Element where
  | backlinks | editButton | postponeButton | taskCount | toolbar | tree | urgency
  deriving DecidableEq, Repr

def Element.all : List Element :=
  [backlinks, editButton, postponeButton, taskCount, toolbar, tree, urgency]

def Element.keyword : Element → Text
  | .backlinks => "backlink"
  | .editButton => "edit button"
  | .postponeButton => "postpone button"
  | .taskCount => "task count"
  | .toolbar => "toolbar"
  | .tree => "tree"
  | .urgency => "urgency"

def Element.read? (cs : Text) : Option Element :=
  all.find? fun element => element.keyword.isPrefixOf (Text.lower cs)

def Element.isHiddenAtFirst : Element → Bool
  | .toolbar | .tree | .urgency => true
  | _ => false

structure Layout where
  hides : Element → Bool := Element.isHiddenAtFirst
  short : Bool := false
  explained : Bool := false
  dates : DateDisplay := .all

def Layout.setHidden (layout : Layout) (element : Element) (hidden : Bool) : Layout :=
  { layout with hides := fun other => if other = element then hidden else layout.hides other }

def Layout.setNamed? (layout : Layout) (cs : Text) (hidden : Bool) : Option Layout :=
  (Element.read? cs).map (layout.setHidden · hidden)

end TaskQuery
