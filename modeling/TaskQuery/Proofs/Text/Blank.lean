import TaskQuery.Proofs.Text.Letter
import TaskQuery.Text.Blank

set_option autoImplicit false

namespace TaskQuery

theorem isBlank_toLower (c : Char) : isBlank c.toLower = isBlank c := by
  cases ascii : isAscii c with
  | true => exact of_ascii_codes (fun c => isBlank c.toLower = isBlank c) (by decide) c ascii
  | false => rw [toLower_of_not_ascii c ascii]

namespace Text

@[simp] theorem unspaced_append (front back : Text) :
    unspaced (front ++ back) = unspaced front ++ unspaced back := by
  simp [unspaced]

@[simp] theorem asciiLower_append (front back : Text) :
    asciiLower (front ++ back) = asciiLower front ++ asciiLower back := by
  simp [asciiLower]

@[simp] theorem unspaced_asciiLower (cs : Text) :
    unspaced (asciiLower cs) = asciiLower (unspaced cs) := by
  induction cs with
  | nil => rfl
  | cons c cs ih =>
    by_cases blank : isBlank c <;> simp_all [unspaced, asciiLower, isBlank_toLower]

theorem unspaced_blanks (gap : Text) (blank : gap.all isBlank = true) : unspaced gap = [] := by
  simp_all [unspaced]

theorem head?_trimStart (cs : Text) : ∀ c ∈ (trimStart cs).head?, isBlank c = false := by
  intro c first
  have visible := List.head?_dropWhile_not isBlank cs
  rw [← trimStart, Option.mem_def.mp first] at visible
  simpa using visible

theorem trimStart_eq_self (cs : Text) (visible : ∀ c ∈ cs.head?, isBlank c = false) :
    trimStart cs = cs := by
  cases cs with
  | nil => rfl
  | cons c cs => simp [trimStart, visible c rfl]

theorem trim_visible (cs : Text) (visible : ∀ c ∈ cs, isBlank c = false) : trim cs = cs := by
  have front : trimStart cs = cs :=
    trimStart_eq_self cs fun c first => visible c (List.mem_of_mem_head? first)
  have back : trimStart cs.reverse = cs.reverse :=
    trimStart_eq_self cs.reverse fun c last =>
      visible c (List.mem_reverse.mp (List.mem_of_mem_head? last))
  rw [trim, front, back, List.reverse_reverse]

theorem trim_initial (cs : Text) : trim cs <+: trimStart cs := by
  have back : trimStart (trimStart cs).reverse <:+ (trimStart cs).reverse :=
    List.dropWhile_suffix _
  simpa [trim] using List.reverse_prefix.mpr back

theorem mem_of_mem_trim (cs : Text) (c : Char) (member : c ∈ trim cs) : c ∈ cs :=
  (List.dropWhile_suffix _).mem ((trim_initial cs).mem member)

@[simp] theorem trim_trim (cs : Text) : trim (trim cs) = trim cs := by
  have front : trimStart (trim cs) = trim cs := by
    apply trimStart_eq_self
    intro c first
    apply head?_trimStart cs c
    obtain ⟨tail, whole⟩ := trim_initial cs
    rw [← whole, List.head?_append, Option.mem_def.mp first]
    rfl
  have back : trimStart (trim cs).reverse = (trim cs).reverse := by
    rw [trim, List.reverse_reverse]
    exact trimStart_eq_self _ (head?_trimStart _)
  rw [trim.eq_1 (trim cs), front, back, List.reverse_reverse]

theorem trimStart_gap {gap cs : Text} (blank : gap.all isBlank = true)
    (visible : ∀ c ∈ cs.head?, isBlank c = false) : trimStart (gap ++ cs) = cs := by
  rw [trimStart, List.dropWhile_append_of_pos (by simpa using blank)]
  exact trimStart_eq_self cs visible

theorem trim_gap_append {gap : Text} (cs : Text) (blank : gap.all isBlank = true) :
    trim (gap ++ cs) = trim cs := by
  have front : trimStart (gap ++ cs) = trimStart cs :=
    List.dropWhile_append_of_pos (by simpa using blank)
  rw [trim, front, trim]

theorem trim_append_gap {gap : Text} (cs : Text) (blank : gap.all isBlank = true) :
    trim (cs ++ gap) = trim cs := by
  have back : trimStart (gap.reverse ++ (trimStart cs).reverse) =
      trimStart (trimStart cs).reverse :=
    List.dropWhile_append_of_pos (by simpa using blank)
  by_cases empty : trimStart cs = []
  · have nothing : trimStart (gap ++ []) = [] := trimStart_gap blank (by simp)
    have front : trimStart (cs ++ gap) = [] := by
      rw [trimStart, List.dropWhile_append, if_pos (by simpa [trimStart] using empty)]
      rwa [List.append_nil] at nothing
    rw [trim, front, trim, empty]
  · have front : trimStart (cs ++ gap) = trimStart cs ++ gap := by
      rw [trimStart, List.dropWhile_append, if_neg (by simpa [trimStart] using empty), trimStart]
    rw [trim, front, List.reverse_append, back, trim]

@[simp] theorem trim_trimStart (cs : Text) : trim (trimStart cs) = trim cs := by
  rw [trim, trimStart_eq_self (trimStart cs) (head?_trimStart cs), trim]

theorem exists_visible_end (cs : Text) : ∃ kept trail, cs = kept ++ trail ∧
    trail.all isBlank = true ∧ ∀ c ∈ kept.getLast?, isBlank c = false := by
  refine ⟨(trimStart cs.reverse).reverse, (cs.reverse.takeWhile isBlank).reverse, ?_, ?_, ?_⟩
  · rw [← List.reverse_append, trimStart, List.takeWhile_append_dropWhile, List.reverse_reverse]
  · rw [List.all_reverse]
    exact List.all_takeWhile
  · rw [List.getLast?_reverse]
    exact head?_trimStart cs.reverse

theorem exists_trim (cs : Text) : ∃ lead trail, cs = lead ++ trim cs ++ trail ∧
    lead.all isBlank = true ∧ trail.all isBlank = true := by
  have front : cs.takeWhile isBlank ++ trimStart cs = cs := List.takeWhile_append_dropWhile
  have back : trim cs ++ ((trimStart cs).reverse.takeWhile isBlank).reverse = trimStart cs := by
    rw [trim, ← List.reverse_append, List.reverse_eq_iff]
    exact List.takeWhile_append_dropWhile
  refine ⟨cs.takeWhile isBlank, ((trimStart cs).reverse.takeWhile isBlank).reverse, ?_,
    List.all_takeWhile, ?_⟩
  · rw [List.append_assoc, back, front]
  · rw [List.all_reverse]
    exact List.all_takeWhile

theorem exists_trim_around (before after : Text) {c : Char} (visible : isBlank c = false) :
    ∃ lead front back trail, before = lead ++ front ∧
      trim (before ++ c :: after) = front ++ c :: back ∧ after = back ++ trail := by
  obtain ⟨lead, trail, shape, blank, blank'⟩ := exists_trim (before ++ c :: after)
  have outside {gap : Text} (blank : gap.all isBlank = true) : c ∉ gap := by
    intro member
    rw [List.all_eq_true.mp blank c member] at visible
    cases visible
  generalize trim (before ++ c :: after) = trimmed at shape
  obtain ⟨front, rfl, rest⟩ : ∃ front, before = lead ++ front ∧
      front ++ c :: after = trimmed ++ trail := by
    rw [List.append_assoc, List.append_eq_append_iff] at shape
    rcases shape with ⟨more, rfl, rest⟩ | ⟨front, rfl, rest⟩
    · cases more with
      | nil => exact ⟨[], by simp, rest⟩
      | cons d more =>
        obtain ⟨rfl, _⟩ := List.cons.inj rest
        exact absurd (by simp) (outside blank)
    · exact ⟨front, rfl, rest.symm⟩
  rw [List.append_eq_append_iff] at rest
  rcases rest with ⟨back, rfl, rest⟩ | ⟨more, rfl, rfl⟩
  · cases back with
    | nil =>
      obtain rfl : c :: after = trail := rest
      exact absurd (by simp) (outside blank')
    | cons d back =>
      obtain ⟨rfl, rfl⟩ := List.cons.inj rest
      exact ⟨lead, front, back, trail, rfl, rfl, rfl⟩
  · exact absurd (by simp) (outside blank')

def opening? (cs : Text) : Option Char :=
  cs.unspaced.asciiLower.head?

@[simp] theorem opening?_trim (cs : Text) : opening? cs.trim = opening? cs := by
  simp [opening?]

theorem opening?_append (front back : Text) (c : Char) (opens : opening? front = some c) :
    opening? (front ++ back) = some c := by
  simp_all [opening?]

theorem opening?_cons (c : Char) (cs : Text) (visible : isBlank c = false) :
    opening? (c :: cs) = some c.toLower := by
  simp [opening?, unspaced, asciiLower, visible]

theorem opening?_dropWhile (p : Char → Bool) (blank : ∀ c, p c = true → isBlank c = true)
    (cs : Text) :
    opening? (cs.dropWhile p) = opening? cs := by
  induction cs with
  | nil => rfl
  | cons c cs ih =>
    by_cases dropped : p c = true
    · simp_all [opening?, unspaced]
    · simp [dropped]

def closing? (cs : Text) : Option Char :=
  cs.unspaced.asciiLower.getLast?

@[simp] theorem closing?_trim (cs : Text) : closing? cs.trim = closing? cs := by
  simp [closing?]

theorem closing?_append (front back : Text) (c : Char) (closes : closing? back = some c) :
    closing? (front ++ back) = some c := by
  simp_all [closing?]

theorem closing?_concat (cs : Text) (c : Char) (visible : isBlank c = false) :
    closing? (cs ++ [c]) = some c.toLower :=
  closing?_append cs [c] c.toLower (by simp [closing?, unspaced, asciiLower, visible])

end Text
end TaskQuery
