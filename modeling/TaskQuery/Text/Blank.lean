import TaskQuery.Text.Basic
import TaskQuery.Text.Ranges

set_option autoImplicit false

namespace TaskQuery

-- The characters of the property White_Space.
def blanks : CodeRanges :=
  [(0x9, 0xD), (0x20, 0x20), (0x85, 0x85), (0xA0, 0xA0), (0x1680, 0x1680), (0x2000, 0x200A),
   (0x2028, 0x2029), (0x202F, 0x202F), (0x205F, 0x205F), (0x3000, 0x3000)]

def isBlank (c : Char) : Bool :=
  blanks.has c

def Text.trimStart (cs : Text) : Text :=
  cs.dropWhile isBlank

def Text.trim (cs : Text) : Text :=
  (trimStart (trimStart cs).reverse).reverse

def Text.words (cs : Text) : List Text :=
  (cs.pieces isBlank).filter (· ≠ [])

def Text.unspaced (cs : Text) : Text :=
  cs.filter (!isBlank ·)

theorem Text.unspaced_reverse (cs : Text) : unspaced cs.reverse = (unspaced cs).reverse := by
  simp [unspaced]

theorem Text.unspaced_trimStart (cs : Text) : unspaced (trimStart cs) = unspaced cs := by
  induction cs with
  | nil => rfl
  | cons c cs ih => by_cases blank : isBlank c <;> simp_all [trimStart, unspaced]

@[simp] theorem Text.unspaced_trim (cs : Text) : unspaced (trim cs) = unspaced cs := by
  simp [trim, unspaced_reverse, unspaced_trimStart]

end TaskQuery
