import Std.Time.Zoned
import TaskQuery.Arguments
import TaskQuery.Report

set_option autoImplicit false

namespace TaskQuery

def readSource (path : String) : IO Source := do
  let content? ← try
      pure (some (Text.ofString (← IO.FS.readFile path)))
    catch _ => pure none
  return ⟨path, content?⟩

def readToday : IO Date := do
  let now ← Std.Time.PlainDate.now
  match Date.of? now.year now.month.toNat now.day.toNat with
  | some today => return today
  | none => throw (IO.userError "the clock is outside the calendar")

def run (words : List String) : IO UInt32 := do
  let some arguments := Arguments.read? words
    | IO.eprintln "usage: --query FILE --tasks FILE [--explain]"
      return 2
  let query ← readSource arguments.query
  let tasks ← readSource arguments.tasks
  let fields := defaultFields (← readToday)
  let outcome := Outcome.of (reportOn fields query tasks arguments.explain)
  IO.print (String.ofList outcome.output)
  IO.eprint (String.ofList outcome.complaint)
  return UInt32.ofNat outcome.exitCode

end TaskQuery

def main (words : List String) : IO UInt32 :=
  TaskQuery.run words
