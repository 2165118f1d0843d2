import TaskQuery.Filter
import TaskQuery.Text.Letter

set_option autoImplicit false

namespace TaskQuery

/-- Fixed phrases with their meanings. A line has the meaning of the first phrase that it equals,
case aside. -/
abbrev Phrasebook (α : Type) := List (Text × α)

namespace Phrasebook

variable {α : Type}

def add (book : Phrasebook α) (phrase : Text) (meaning : α) : Phrasebook α :=
  book ++ [(phrase.lower, meaning)]

def entry? (book : Phrasebook α) (line : Text) : Option (Text × α) :=
  book.find? (·.1 = line.lower)

def recognizes (book : Phrasebook α) (line : Text) : Bool :=
  (book.entry? line).isSome

def filter? (book : Phrasebook (Task → Bool)) (line : Text) : Option Filter :=
  (book.entry? line).map fun (phrase, accepts) => ⟨line, accepts, .leaf phrase⟩

end Phrasebook
end TaskQuery
