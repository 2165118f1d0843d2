import TaskQuery.Text.Basic
import TaskQuery.Text.Unprintable

set_option autoImplicit false

namespace TaskQuery

/-- A character between quotes: a short escape, the code point when it has no shape of its own,
or itself. -/
def quotedChar (c : Char) : Text :=
  match c with
  | '\x00' => ['\\', '0']
  | '\t' => ['\\', 't']
  | '\n' => ['\\', 'n']
  | '\r' => ['\\', 'r']
  | '"' => ['\\', '"']
  | '\\' => ['\\', '\\']
  | c =>
    if isUnprintable c then ['\\', 'u', '\x7b'] ++ Nat.toDigits 16 c.toNat ++ ['\x7d'] else [c]

def Text.quoted (cs : Text) : Text :=
  ['"'] ++ cs.flatMap quotedChar ++ ['"']

end TaskQuery
