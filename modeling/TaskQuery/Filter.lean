import TaskQuery.Explanation
import TaskQuery.Task

set_option autoImplicit false

namespace TaskQuery

inductive Problem where
  | unknownLine
  | unknownElement
  | unknownDisplay (mode : Text)
  | unsortable (property : Text)
  | ungroupable (property : Text)
  | notAbout (field : Text)
  | badCount (field : Text)
  | badDate (field : Text)
  | unknownOperator (operator : Text)
  | other (message : Text)
  deriving DecidableEq

def Problem.message : Problem → Text
  | .unknownLine => "do not understand query"
  | .unknownElement => "do not understand hide/show option"
  | .unknownDisplay mode => "unknown top3 display mode: " ++ mode.quoted
  | .unsortable property => "cannot sort by " ++ property.quoted
  | .ungroupable property => "cannot group by " ++ property.quoted
  | .notAbout field => "do not understand query filter (" ++ field ++ " date)"
  | .badCount field => "do not understand " ++ field ++ " count"
  | .badDate field => "do not understand " ++ field ++ " date"
  | .unknownOperator operator => "Unknown operator: " ++ operator
  | .other message => message

structure CompileError where
  line : Text
  problem : Problem
  deriving DecidableEq

def CompileError.text (error : CompileError) : Text :=
  error.problem.message ++ " (problem line: " ++ error.line.quoted ++ ")"

structure Filter where
  line : Text
  accepts : Task → Bool
  explanation : Explanation

def Filter.inspect (filter : Filter) : Text :=
  "Filter \x7b line: " ++ filter.line.quoted ++ ", explanation: " ++
    filter.explanation.inspect ++ ", .. \x7d"

structure Field where
  name : Text
  recognizes : Text → Bool
  compile : Text → Except CompileError Filter
  compare? : Option (Task → Task → Ordering) := none
  headings? : Option (Task → List Text) := none

def Field.find? (fields : List Field) (name : Text) : Option Field :=
  fields.find? (·.name.asciiLower = name.asciiLower)

end TaskQuery
