import TaskQuery.Calendar.Timestamp

set_option autoImplicit false

namespace TaskQuery

def Date.iso (date : Date) : Text :=
  let year :=
    if date.year < 0 then '-' :: Text.padded 6 date.year.natAbs
    else Text.padded 4 date.year.natAbs
  year ++ '-' :: Text.padded 2 date.month ++ '-' :: Text.padded 2 date.day

def isoYear? : Text → Option (Int × Text)
  | '+' :: cs => (Text.digits? 6 cs).map fun (year, rest) => (year, rest)
  | '-' :: cs => do
    let (year, rest) ← Text.digits? 6 cs
    if year = 0 then none else some (-year, rest)
  | cs => (Text.digits? 4 cs).map fun (year, rest) => (year, rest)

def isoDate? (cs : Text) : Option (Date × Text) := do
  let (year, cs) ← isoYear? cs
  let hyphen : Text := if cs.head? = some '-' then ['-'] else []
  let (month, cs) ← Text.digits? 2 (← hyphen.strip? cs)
  let (day, cs) ← Text.digits? 2 (← hyphen.strip? cs)
  return (← Date.of? year month day, cs)

def Date.ofIso? (cs : Text) : Option Date := do
  let (date, rest) ← isoDate? cs
  if endsTimestamp rest then some date else none

end TaskQuery
