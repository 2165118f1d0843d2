import TaskQuery.Text.CaseTable

set_option autoImplicit false

namespace TaskQuery

def isAscii (c : Char) : Bool :=
  c.toNat < 128

def isCased (c : Char) : Bool :=
  if isAscii c then c.isAlpha else casedRanges.has c

def isCaseIgnorable (c : Char) : Bool :=
  caseIgnorables.has c

/-- The lower case of a character where that is one character, else the character itself. -/
def simpleLower (c : Char) : Char :=
  if isAscii c then c.toLower else CaseRun.image lowerRuns c

-- The capitals that version 17 of Unicode adds. Case mappings know them, but folding is that of
-- version 16, in which they have no case.
def unfoldedCapitals : CodeRanges :=
  [(0xA7CE, 0xA7CE), (0xA7D2, 0xA7D2), (0xA7D4, 0xA7D4), (0x16EA0, 0x16EB8)]

/-- A representative of the characters that differ from `c` in case only. -/
def foldCase (c : Char) : Char :=
  if isAscii c then c.toLower
  else if unfoldedCapitals.has c then c
  else simpleLower (CaseRun.image foldRuns c)

-- Only the dotted capital I needs two characters in lower case.
def lowerOf (c : Char) : Text :=
  if c = '\u0130' then ['i', '\u0307'] else [simpleLower c]

def upperOf (c : Char) : Text :=
  if isAscii c then [c.toUpper]
  else (upperSpellings.lookup c).getD [CaseRun.image upperRuns c]

def beginsCased (cs : Text) : Bool :=
  (cs.dropWhile isCaseIgnorable).head?.any isCased

/-- The lower case of a capital sigma depends on whether it ends a word; `before` is the text in
front of it, nearest character first. -/
def lowerSigma (before after : Text) : Char :=
  if beginsCased before && !beginsCased after then '\u03C2' else '\u03C3'

def lowerBehind (before : Text) : Text → Text
  | [] => []
  | c :: cs =>
    (if c = '\u03A3' then [lowerSigma before cs] else lowerOf c) ++ lowerBehind (c :: before) cs

def Text.lower (cs : Text) : Text :=
  lowerBehind [] cs

def Text.capitalized : Text → Text
  | [] => []
  | c :: cs => upperOf c ++ cs

def Text.stripCaseless? (word cs : Text) : Option Text :=
  stripBy? foldCase word cs

end TaskQuery
