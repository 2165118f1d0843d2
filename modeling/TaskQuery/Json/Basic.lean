import TaskQuery.Text.Digit

set_option autoImplicit false

namespace TaskQuery

inductive Mark where
  | char (c : Char)
  | unit (code : Nat)
  deriving DecidableEq, Repr

/-- The string stays as it is written, so that one without meaning can be passed over. -/
abbrev JsonString := List Mark

def escapes : List (Char × Char) :=
  [('"', '"'), ('\\', '\\'), ('\n', 'n'), ('\r', 'r'), ('\t', 't'), ('\x08', 'b'), ('\x0c', 'f')]

def Mark.ofChar (c : Char) : Mark :=
  if c.toNat < 0x20 ∧ escapes.lookup c = none then .unit c.toNat else .char c

def JsonString.ofText (cs : Text) : JsonString :=
  cs.map .ofChar

def isLeading (code : Nat) : Bool :=
  0xD800 ≤ code && code < 0xDC00

def isTrailing (code : Nat) : Bool :=
  0xDC00 ≤ code && code < 0xE000

def pairedChar (leading trailing : Nat) : Char :=
  Char.ofNat (0x10000 + 0x400 * (leading - 0xD800) + (trailing - 0xDC00))

/-- The text of a string, in which half a surrogate pair has no meaning. -/
def JsonString.text? : JsonString → Option Text
  | [] => some []
  | .char c :: marks => (text? marks).map (c :: ·)
  | .unit leading :: .unit trailing :: marks =>
    if isLeading leading then
      if isTrailing trailing then (text? marks).map (pairedChar leading trailing :: ·) else none
    else if isTrailing leading then none
    else (text? (.unit trailing :: marks)).map (Char.ofNat leading :: ·)
  | .unit code :: marks =>
    if isLeading code || isTrailing code then none else (text? marks).map (Char.ofNat code :: ·)

theorem JsonString.text?_char (c : Char) (marks : JsonString) :
    text? (.char c :: marks) = (text? marks).map (c :: ·) := rfl

theorem JsonString.text?_unit (code : Nat) (marks : JsonString) (lt : code < 0xD800) :
    text? (.unit code :: marks) = (text? marks).map (Char.ofNat code :: ·) := by
  have leading : isLeading code = false := by simp [isLeading]; omega
  have trailing : isTrailing code = false := by simp [isTrailing]; omega
  cases marks with
  | nil => simp [text?, leading, trailing]
  | cons mark marks => cases mark <;> simp [text?, leading, trailing]

theorem JsonString.text?_ofChar (c : Char) (marks : JsonString) :
    text? (.ofChar c :: marks) = (text? marks).map (c :: ·) := by
  unfold Mark.ofChar
  split
  next control => rw [text?_unit _ _ (by omega), Char.ofNat_toNat]
  next => exact text?_char c marks

@[simp] theorem JsonString.text?_ofText (cs : Text) : text? (ofText cs) = some cs := by
  induction cs with
  | nil => rfl
  | cons c cs ih =>
    simp only [ofText, List.map_cons] at *
    rw [text?_ofChar, ih]
    rfl

inductive Scalar where
  | null
  | bool (value : Bool)
  | number (literal : Text)
  | string (marks : JsonString)
  deriving DecidableEq, Repr

inductive Json where
  | scalar (value : Scalar)
  | array (items : List Json)
  | object (members : List (JsonString × Json))

namespace Json

@[match_pattern] abbrev null : Json := scalar .null

def bool (value : Bool) : Json :=
  scalar (.bool value)

def nat (n : Nat) : Json :=
  scalar (.number (Text.ofNat n))

def text (cs : Text) : Json :=
  scalar (.string (.ofText cs))

def record (members : List (Text × Json)) : Json :=
  object (members.map fun (key, value) => (.ofText key, value))

def text? : Json → Option Text
  | scalar (.string marks) => marks.text?
  | _ => none

def bool? : Json → Option Bool
  | scalar (.bool value) => some value
  | _ => none

def literal? : Json → Option Text
  | scalar (.number literal) => some literal
  | _ => none

def items? : Json → Option (List Json)
  | array items => some items
  | _ => none

/-- What stands under a key, if anything does; a key that stands twice is a fault. -/
def member? (members : List (Text × Json)) (key : Text) : Option (Option Json) :=
  match members.filter (·.1 = key) with
  | [] => some none
  | [(_, value)] => some (some value)
  | _ => none

/-- The values of the keys of a record: by name from an object, which may hold other keys, or by
place from an array. -/
def members? (keys : List Text) : Json → Option (List (Option Json))
  | array items => if items.length = keys.length then some (items.map some) else none
  | object members => do
    let named ← members.mapM fun (key, value) => key.text?.map fun key => (key, value)
    keys.mapM (member? named)
  | scalar _ => none

end Json
end TaskQuery
