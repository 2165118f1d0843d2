import TaskQuery.Calendar.Date
import TaskQuery.Text.Digit

set_option autoImplicit false

namespace TaskQuery

def Text.digits? (count : Nat) (cs : Text) : Option (Nat × Text) :=
  let run := cs.take count
  if run.length = count ∧ run.all Char.isDigit then some (value run, cs.drop count) else none

def below? (limit : Nat) (cs : Text) : Option Text := do
  let (n, rest) ← Text.digits? 2 cs
  if n < limit then some rest else none

def nextPart? (colons : Bool) (cs : Text) : Option Text :=
  -- Parts written with colons go on behind a colon, parts written without go on with two digits.
  if colons then Text.strip? [':'] cs else (Text.digits? 2 cs).map fun _ => cs

def fraction? : Text → Option Text
  | [] => some []
  | c :: cs =>
    if c = '.' ∨ c = ',' then
      let digits := (cs.take 9).takeWhile Char.isDigit
      if digits = [] then none else some (cs.drop digits.length)
    else some (c :: cs)

def minutes? (next : Text → Option Text) (colons : Bool) (cs : Text) : Option Text :=
  match nextPart? colons cs with
  | none => some cs
  | some cs => (below? 60 cs).bind next

def seconds? (limit : Nat) (colons : Bool) (cs : Text) : Option Text :=
  match nextPart? colons cs with
  | none => some cs
  | some cs => (below? limit cs).bind fraction?

def clock? (hours seconds : Nat) (cs : Text) : Option Text := do
  let cs ← below? hours cs
  let colons := cs.head? = some ':'
  minutes? (seconds? seconds colons) colons cs

/-- What stands behind a signed distance from universal time; the letter for universal time itself
names an instant and not a day. -/
def offset? : Text → Option Text
  | [] => some []
  | c :: cs =>
    if c = '+' ∨ c = '-' then clock? 26 60 cs
    else if c = 'Z' ∨ c = 'z' then none
    else some (c :: cs)

def isWord (first later : Char → Bool) : Text → Bool
  | [] => false
  | c :: cs => first c && cs.all later

def isZoneStart (c : Char) : Bool :=
  c.isAlpha || c == '_' || c == '.'

def isZoneName (cs : Text) : Bool :=
  (cs.pieces (· == '/')).all
    (isWord isZoneStart fun c => isZoneStart c || c.isDigit || c == '+' || c == '-')

def isZoneOffset : Text → Bool
  | [] => false
  | c :: cs =>
    (c == '+' || c == '-') && (below? 26 cs).any fun cs =>
      minutes? some (cs.head? = some ':') cs = some []

def isTagStart (c : Char) : Bool :=
  c.isLower || c == '_'

def isTag (cs : Text) : Bool :=
  match cs.span (· != '=') with
  | (name, '=' :: parts) =>
    isWord isTagStart (fun c => isTagStart c || c.isDigit || c == '-') name &&
      (Text.pieces (· == '-') parts).all (isWord Char.isAlphanum Char.isAlphanum)
  | _ => false

/-- A note in brackets, without its closing bracket. An exclamation mark says that it must be
understood, which holds of time zones alone. -/
def isNote (zones : Bool) : Text → Bool
  | '[' :: '!' :: body => zones && (isZoneName body || isZoneOffset body)
  | '[' :: body => zones && (isZoneName body || isZoneOffset body) || isTag body
  | _ => false

-- Only the first note may name a time zone.
def areNotes (cs : Text) : Bool :=
  match (cs.pieces (· == ']')).reverse with
  | [] :: notes =>
    match notes.reverse with
    | [] => true
    | note :: rest => isNote true note && rest.all (isNote false)
  | _ => false

def endsTimestamp : Text → Bool
  | [] => true
  | c :: cs =>
    if c = 'T' ∨ c = 't' ∨ c = ' ' then ((clock? 24 61 cs).bind offset?).any areNotes
    else areNotes (c :: cs)

end TaskQuery
