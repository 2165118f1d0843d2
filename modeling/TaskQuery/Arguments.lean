import TaskQuery.Text.Basic

set_option autoImplicit false

namespace TaskQuery

structure Wanted where
  query? : Option String := none
  tasks? : Option String := none
  explain : Bool := false

structure Arguments where
  query : String
  tasks : String
  explain : Bool
  deriving DecidableEq

def Wanted.finish? : Wanted → Option Arguments
  | ⟨some query, some tasks, explain⟩ => some ⟨query, tasks, explain⟩
  | _ => none

def Wanted.read? : Wanted → List String → Option Arguments
  | wanted, [] => wanted.finish?
  | ⟨none, tasks?, explain⟩, "--query" :: path :: rest => read? ⟨some path, tasks?, explain⟩ rest
  | ⟨query?, none, explain⟩, "--tasks" :: path :: rest => read? ⟨query?, some path, explain⟩ rest
  | ⟨query?, tasks?, false⟩, "--explain" :: rest => read? ⟨query?, tasks?, true⟩ rest
  | _, _ => none

def pathOptions : List String := ["--query", "--tasks"]

def spread (word : String) : List String :=
  let joined? := pathOptions.findSome? fun option =>
    (Text.strip? (option ++ "=").toList word.toList).map fun path => [option, String.ofList path]
  joined?.getD [word]

def Arguments.read? (words : List String) : Option Arguments :=
  Wanted.read? {} (words.flatMap spread)

end TaskQuery
