import TaskQuery.Calendar.Long
import TaskQuery.Proofs.Calendar.Reading

set_option autoImplicit false

namespace TaskQuery

namespace Text

theorem value_padded (width n : Nat) : value (padded width n) = n := by
  rw [value, padded, List.leftpad, Nat.ofDigitChars_append, Nat.ofDigitChars_replicate_zero,
    Nat.mul_zero]
  exact value_ofNat n

theorem length_padded (width n : Nat) (fits : (ofNat n).length ≤ width) :
    (padded width n).length = width := by
  rw [padded, List.length_leftpad]
  exact Nat.max_eq_left fits

theorem isNumber_padded (width n : Nat) : (padded width n).isNumber = true := by
  have digits := isNumber_ofNat n
  simp only [isNumber, Bool.and_eq_true, decide_eq_true_eq, List.all_eq_true] at digits ⊢
  rw [padded, List.leftpad]
  refine ⟨fun empty => digits.1 (List.append_eq_nil_iff.mp empty).2, ?_⟩
  intro c member
  rcases List.mem_append.mp member with zero | digit
  · rw [(List.mem_replicate.mp zero).2]
    decide
  · exact digits.2 c digit

theorem digits?_padded (width n : Nat) (rest : Text) (fits : (ofNat n).length ≤ width) :
    (padded width n ++ rest).digits? width = some (n, rest) := by
  have read := digits?_append (padded width n) rest (isNumber_padded width n)
  rwa [length_padded width n fits, value_padded] at read

end Text

def Date.isoYear (date : Date) : Text :=
  if date.year < 0 then '-' :: Text.padded 6 date.year.natAbs
  else Text.padded 4 date.year.natAbs

theorem isoYear?_digits (cs : Text) (number : cs.isNumber = true) (rest : Text) :
    isoYear? (cs ++ rest) =
      (Text.digits? 4 (cs ++ rest)).map fun (year, rest) => (↑year, rest) := by
  cases cs with
  | nil => cases number
  | cons c cs =>
    simp only [Text.isNumber, List.all_cons, Bool.and_eq_true] at number
    have digit := number.2.1
    unfold isoYear?
    split
    next same =>
      cases same
      cases digit
    next same =>
      cases same
      cases digit
    next => rfl

theorem isoYear?_isoYear (date : Date) (rest : Text) :
    isoYear? (date.isoYear ++ rest) = some (date.year, rest) := by
  have ge := date.valid.year_ge
  have le := date.valid.year_le
  unfold Date.isoYear
  split
  next negative =>
    have fits : (Text.ofNat date.year.natAbs).length ≤ 6 :=
      (Nat.length_toDigits_le_iff (by decide) (by decide)).mpr (by omega)
    have read := Text.digits?_padded 6 date.year.natAbs rest fits
    have nonzero : date.year.natAbs ≠ 0 := by omega
    have year : -(date.year.natAbs : Int) = date.year := by omega
    simp only [List.cons_append, isoYear?, read, Option.bind_eq_bind, Option.bind_some, nonzero,
      if_false, year]
  next =>
    have fits : (Text.ofNat date.year.natAbs).length ≤ 4 :=
      (Nat.length_toDigits_le_iff (by decide) (by decide)).mpr (by omega)
    have read := Text.digits?_padded 4 date.year.natAbs rest fits
    have year : (date.year.natAbs : Int) = date.year := by omega
    simp only [isoYear?_digits _ (Text.isNumber_padded 4 _), read, Option.map_some, year]

theorem monthLength_le (year : Int) (month : Nat) : monthLength year month ≤ 31 := by
  unfold monthLength
  split
  next => split <;> decide
  all_goals decide

theorem isoDate?_iso (date : Date) (rest : Text) :
    isoDate? (date.iso ++ rest) = some (date, rest) := by
  have valid := date.valid
  have short (n : Nat) (small : n ≤ 31) : (Text.ofNat n).length ≤ 2 :=
    (Nat.length_toDigits_le_iff (by decide) (by decide)).mpr (by omega)
  have month (rest : Text) := Text.digits?_padded 2 date.month rest
    (short date.month (valid.month_le.trans (by decide)))
  have day (rest : Text) := Text.digits?_padded 2 date.day rest
    (short date.day (valid.day_le.trans (monthLength_le date.year date.month)))
  have same : Date.of? date.year date.month date.day = some date :=
    (Date.of?_eq_some _ _ _ _).mpr ⟨rfl, rfl, rfl⟩
  have shape : date.iso ++ rest = date.isoYear ++
      ('-' :: (Text.padded 2 date.month ++ '-' :: (Text.padded 2 date.day ++ rest))) := by
    simp [Date.iso, Date.isoYear]
  have hyphen (cs : Text) : Text.strip? ['-'] ('-' :: cs) = some cs :=
    (Text.strip?_eq_some ['-'] _ _).mpr rfl
  simp [shape, isoDate?, isoYear?_isoYear, hyphen, month, day, same]

theorem Date.ofIso?_iso (date : Date) : ofIso? date.iso = some date := by
  have read := isoDate?_iso date []
  rw [List.append_nil] at read
  simp [ofIso?, read, endsTimestamp]

theorem Date.iso_append_inj {a b : Date} {front back : Text}
    (same : a.iso ++ front = b.iso ++ back) : a = b ∧ front = back := by
  have first := isoDate?_iso a front
  have second := isoDate?_iso b back
  rw [same] at first
  exact Prod.mk.inj (Option.some.inj (first.symm.trans second))

theorem Date.long_append_inj {a b : Date} {front back : Text}
    (same : a.long ++ front = b.long ++ back) : a = b ∧ front = back := by
  have shape (date : Date) : ∃ tail, date.long = date.iso ++ tail := by
    simp [Date.long]
  obtain ⟨tailA, longA⟩ := shape a
  obtain ⟨tailB, longB⟩ := shape b
  have isoSame : a.iso ++ (tailA ++ front) = b.iso ++ (tailB ++ back) := by
    rw [← List.append_assoc, ← longA, same, longB, List.append_assoc]
  obtain ⟨rfl, _⟩ := iso_append_inj isoSame
  exact ⟨rfl, List.append_cancel_left same⟩

theorem Date.long_opens (date : Date) :
    ∃ c tail, date.long = c :: tail ∧ (c = '-' ∨ c.isDigit = true) := by
  have opens : ∃ c tail, date.isoYear = c :: tail ∧ (c = '-' ∨ c.isDigit = true) := by
    unfold isoYear
    split
    next => exact ⟨_, _, rfl, .inl rfl⟩
    next =>
      have number := Text.isNumber_padded 4 date.year.natAbs
      cases digits : Text.padded 4 date.year.natAbs with
      | nil => simp [digits, Text.isNumber] at number
      | cons c tail =>
        simp only [digits, Text.isNumber, List.all_cons, Bool.and_eq_true] at number
        exact ⟨c, tail, rfl, .inr number.2.1⟩
  obtain ⟨c, front, year, first⟩ := opens
  have shape : ∃ tail, date.long = date.isoYear ++ tail := by
    simp [long, iso, isoYear]
  obtain ⟨tail, shape⟩ := shape
  rw [year] at shape
  exact ⟨c, front ++ tail, shape, first⟩

theorem Date.long_closes (date : Date) : date.long.getLast? = some ')' := by
  have closing : (")" : Text) = [')'] := Text.ofString_eq ")"
  simp [long, closing]

end TaskQuery
