import TaskQuery.Json.Token

set_option autoImplicit false

namespace TaskQuery

inductive NumberPart where
  | minus | zero | whole | point | fraction | mark | sign | exponent
  deriving DecidableEq, Repr

def NumberPart.next? (part : NumberPart) (c : Char) : Option NumberPart :=
  match part with
  | minus => if c = '0' then some zero else if c.isDigit then some whole else none
  | zero => behindWhole c
  | whole => if c.isDigit then some whole else behindWhole c
  | point => if c.isDigit then some fraction else none
  | fraction => if c.isDigit then some fraction else behindFraction c
  | mark => if c = '+' ∨ c = '-' then some sign else if c.isDigit then some exponent else none
  | sign | exponent => if c.isDigit then some exponent else none
where
  behindFraction (c : Char) : Option NumberPart := if c = 'e' ∨ c = 'E' then some mark else none
  behindWhole (c : Char) : Option NumberPart := if c = '.' then some point else behindFraction c

def NumberPart.mayEnd : NumberPart → Bool
  | zero | whole | fraction | exponent => true
  | minus | point | mark | sign => false

/-- Where in a token a scan stands; what has been read of a token is kept last character first. -/
inductive Scan where
  | between
  | word (rest : Text) (value : Scalar)
  | number (part : NumberPart) (read : Text)
  | string (read : JsonString)
  | escape (read : JsonString)
  | unit (read : JsonString) (due code : Nat)
  deriving DecidableEq, Repr

namespace Scan

def isSpace (c : Char) : Bool :=
  c == ' ' || c == '\n' || c == '\r' || c == '\t'

def start (c : Char) : Option (List Token × Scan) :=
  match c with
  | '[' => some ([.openArray], between)
  | ']' => some ([.closeArray], between)
  | '\x7b' => some ([.openObject], between)
  | '\x7d' => some ([.closeObject], between)
  | ',' => some ([.comma], between)
  | ':' => some ([.colon], between)
  | '"' => some ([], string [])
  | 'n' => some ([], word ['u', 'l', 'l'] .null)
  | 't' => some ([], word ['r', 'u', 'e'] (.bool true))
  | 'f' => some ([], word ['a', 'l', 's', 'e'] (.bool false))
  | '-' => some ([], number .minus ['-'])
  | c =>
    if isSpace c then some ([], between)
    else (NumberPart.minus.next? c).map fun part => ([], number part [c])

def hexDigit? (c : Char) : Option Nat :=
  if c.isDigit then some (digitValue c)
  else if 'a' ≤ c ∧ c ≤ 'f' then some (c.toNat - 'a'.toNat + 10)
  else if 'A' ≤ c ∧ c ≤ 'F' then some (c.toNat - 'A'.toNat + 10)
  else none

def unescape? (letter : Char) : Option Char :=
  if letter = '/' then some '/' else (escapes.find? (·.2 = letter)).map (·.1)

def step (scan : Scan) (c : Char) : Option (List Token × Scan) :=
  match scan with
  | between => start c
  | word [] _ => none
  | word [d] value => if c = d then some ([.scalar value], between) else none
  | word (d :: rest) value => if c = d then some ([], word rest value) else none
  | number part read =>
    match part.next? c with
    | some part => some ([], number part (c :: read))
    | none =>
      if part.mayEnd then
        (start c).map fun (tokens, scan) => (.scalar (.number read.reverse) :: tokens, scan)
      else none
  | string read =>
    if c = '"' then some ([.scalar (.string read.reverse)], between)
    else if c = '\\' then some ([], escape read)
    else if c.toNat < 0x20 then none
    else some ([], string (.char c :: read))
  | escape read =>
    if c = 'u' then some ([], unit read 4 0)
    else (unescape? c).map fun d => ([], string (.char d :: read))
  | unit read due code =>
    (hexDigit? c).map fun digit =>
      let code := 16 * code + digit
      ([], if due ≤ 1 then string (.unit code :: read) else unit read (due - 1) code)

def finish? : Scan → Option (List Token)
  | between => some []
  | number part read => if part.mayEnd then some [.scalar (.number read.reverse)] else none
  | _ => none

def tokensBehind? (before : List Token) (scan : Scan) : Text → Option (List Token)
  | [] => scan.finish?.map (before.reverse ++ ·)
  | c :: cs =>
    match scan.step c with
    | some (tokens, scan) => tokensBehind? (tokens.reverse ++ before) scan cs
    | none => none

end Scan

def Token.scan? (cs : Text) : Option (List Token) :=
  Scan.tokensBehind? [] .between cs

end TaskQuery
