import TaskQuery.Proofs.Calendar.Exclusion
import TaskQuery.Proofs.Text.Words

set_option autoImplicit false

namespace TaskQuery
namespace Text

def Gap (cs : Text) : Prop :=
  cs ≠ [] ∧ cs.all isBlank = true

/-- What stands between the two dates of a range: `to` in either case or a hyphen, with blanks on
both sides, or two dots, with blanks or without. -/
inductive Separates : Text → Prop where
  | word (before after : Text) (t o : Char) (front : before.Gap) (back : after.Gap)
    (first : t.toLower = 't') (second : o.toLower = 'o') : Separates (before ++ [t, o] ++ after)
  | hyphen (before after : Text) (front : before.Gap) (back : after.Gap) :
    Separates (before ++ ['-'] ++ after)
  | dots (before after : Text) (front : before.all isBlank = true)
    (back : after.all isBlank = true) : Separates (before ++ ['.', '.'] ++ after)

def Spaced (left right : Text) : Prop :=
  left.getLast?.any isBlank = true ∧ right.head?.any isBlank = true

/-- A separator without its blanks, and the texts on its two sides with them. -/
inductive Joint (left : Text) : Text → Text → Prop where
  | word (right : Text) (t o : Char) (first : t.toLower = 't') (second : o.toLower = 'o')
    (spaced : Spaced left right) : Joint left [t, o] right
  | hyphen (right : Text) (spaced : Spaced left right) : Joint left ['-'] right
  | dots (right : Text) : Joint left ['.', '.'] right

theorem getLast?_any_append (front : Text) {gap : Text} (blank : gap.Gap) :
    (front ++ gap).getLast?.any isBlank = true := by
  have ends := List.getLast?_eq_some_getLast blank.1
  rw [List.getLast?_append_of_ne_nil _ blank.1, ends, Option.any_some]
  exact List.all_eq_true.mp blank.2 _ (List.getLast_mem blank.1)

theorem head?_any_append {gap : Text} (blank : gap.Gap) (back : Text) :
    (gap ++ back).head?.any isBlank = true := by
  obtain ⟨nonempty, blank⟩ := blank
  obtain ⟨c, rest, rfl⟩ := List.exists_cons_of_ne_nil nonempty
  exact List.all_eq_true.mp blank c List.mem_cons_self

theorem Separates.joint {separator : Text} (separates : separator.Separates) (first second : Text) :
    ∃ left joint right, Joint left joint right ∧
      first ++ separator ++ second = left ++ joint ++ right ∧
      left.trim = first.trim ∧ right.trim = second.trim := by
  have sides (before after : Text) (front : before.all isBlank = true)
      (back : after.all isBlank = true) :
      (first ++ before).trim = first.trim ∧ (after ++ second).trim = second.trim :=
    ⟨trim_append_gap first front, trim_gap_append second back⟩
  cases separates with
  | word before after t o front back tee oh =>
    have spaced := And.intro (getLast?_any_append first front) (head?_any_append back second)
    exact ⟨_, _, _, .word _ t o tee oh spaced, by simp, sides before after front.2 back.2⟩
  | hyphen before after front back =>
    have spaced := And.intro (getLast?_any_append first front) (head?_any_append back second)
    exact ⟨_, _, _, .hyphen _ spaced, by simp, sides before after front.2 back.2⟩
  | dots before after front back =>
    exact ⟨first ++ before, _, _, .dots (after ++ second), by simp, sides before after front back⟩

theorem Joint.map {left joint right left' right' : Text} (joined : Joint left joint right)
    (spaced : Spaced left right → Spaced left' right') : Joint left' joint right' := by
  cases joined with
  | word _ t o first second sides => exact .word _ t o first second (spaced sides)
  | hyphen _ sides => exact .hyphen _ (spaced sides)
  | dots => exact .dots _

theorem spaced_append_iff (front back : Text) {left right : Text} (nonempty : left ≠ [])
    (nonempty' : right ≠ []) : Spaced (front ++ left) (right ++ back) ↔ Spaced left right := by
  unfold Spaced
  rw [List.getLast?_append_of_ne_nil _ nonempty, List.head?_append_of_ne_nil _ nonempty']

theorem Joint.behind_visible {kept gap joint right : Text}
    (joined : Joint (kept ++ gap) joint right)
    (shown : ∀ c ∈ kept.getLast?, isBlank c = false) : Joint gap joint right := by
  apply joined.map
  rintro ⟨front, back⟩
  refine ⟨?_, back⟩
  by_cases nonempty : gap = []
  · rw [nonempty, List.append_nil, Option.any_eq_true] at front
    obtain ⟨c, last, blank⟩ := front
    rw [shown c last] at blank
    cases blank
  · rwa [List.getLast?_append_of_ne_nil _ nonempty] at front

theorem Joint.visible {left joint right : Text} (joined : Joint left joint right) :
    joint ≠ [] ∧ ∀ c ∈ joint, isBlank c = false := by
  cases joined with
  | word _ t o first second _ =>
    have visible (c letter : Char) (same : c.toLower = letter) (shown : isBlank letter = false) :
        isBlank c = false := by
      rw [← isBlank_toLower, same, shown]
    simp [visible t 't' first (by decide), visible o 'o' second (by decide)]
  | hyphen => simp [show isBlank '-' = false by decide]
  | dots => simp [show isBlank '.' = false by decide]

end Text

open Text

theorem behindSeparator?_joint (cs second : Text) (found : behindSeparator? cs = some second) :
    ∃ gap joint right, gap.all isBlank = true ∧ cs = gap ++ (joint ++ right) ∧
      (∀ front, Joint (front ++ gap) joint right) ∧ second.trim = right.trim := by
  have whole := List.takeWhile_append_dropWhile (p := isBlank) (l := cs)
  have blank : (cs.takeWhile isBlank).all isBlank = true := List.all_takeWhile
  have spaced (c : Char) (rest front : Text) (nonempty : cs.takeWhile isBlank ≠ [])
      (after : isBlank c = true) : Spaced (front ++ cs.takeWhile isBlank) (c :: rest) :=
    ⟨getLast?_any_append front ⟨nonempty, blank⟩, after⟩
  have behind (c : Char) (rest : Text) (after : isBlank c = true) :
      trim (trimStart rest) = trim (c :: rest) := by
    rw [trim_trimStart, ← trim_gap_append rest (show [c].all isBlank = true by simpa using after),
      List.singleton_append]
  unfold behindSeparator? at found
  dsimp only at found
  split at found
  next rest shape =>
    cases found
    exact ⟨_, ['.', '.'], rest, blank, by simpa [shape] using whole.symm, fun front => .dots _,
      trim_trimStart rest⟩
  next c rest shape =>
    rw [Option.ite_none_right_eq_some, Option.some.injEq] at found
    obtain ⟨⟨nonempty, after⟩, rfl⟩ := found
    exact ⟨_, ['-'], c :: rest, blank, by simpa [shape] using whole.symm,
      fun front => .hyphen _ (spaced c rest front nonempty after), behind c rest after⟩
  next t o c rest _ _ shape =>
    rw [Option.ite_none_right_eq_some, Option.some.injEq] at found
    obtain ⟨⟨nonempty, tee, oh, after⟩, rfl⟩ := found
    exact ⟨_, [t, o], c :: rest, blank, by simpa [shape] using whole.symm,
      fun front => .word _ t o tee oh (spaced c rest front nonempty after), behind c rest after⟩
  next => cases found

theorem splitRange?_joint (cs first second : Text)
    (found : splitRange? cs = some (first, second)) :
    ∃ left joint right, Joint left joint right ∧ cs = left ++ joint ++ right ∧
      first.trim = left.trim ∧ second.trim = right.trim := by
  -- A separator at the front of what is left stays one behind what was passed over.
  have split : ∃ gap joint right, gap.all isBlank = true ∧ cs = first ++ (gap ++ (joint ++ right)) ∧
      (∀ front, Joint (front ++ gap) joint right) ∧ second.trim = right.trim := by
    induction cs generalizing first with
    | nil => simp [splitRange?] at found
    | cons c cs ih =>
      simp only [splitRange?] at found
      split at found
      next rest behind =>
        simp only [Option.some.injEq, Prod.mk.injEq] at found
        obtain ⟨rfl, rfl⟩ := found
        exact behindSeparator?_joint (c :: cs) rest behind
      next =>
        simp only [Option.map_eq_some_iff, Prod.mk.injEq] at found
        obtain ⟨⟨front, back⟩, split, rfl, rfl⟩ := found
        obtain ⟨gap, joint, right, blank, rfl, joined, behind⟩ := ih front split
        exact ⟨gap, joint, right, blank, rfl, joined, behind⟩
  obtain ⟨gap, joint, right, blank, rfl, joined, behind⟩ := split
  exact ⟨first ++ gap, joint, right, joined first, by simp, (trim_append_gap first blank).symm,
    behind⟩

theorem isSome_behindSeparator? {gap joint right : Text} (blank : gap.all isBlank = true)
    (joined : Joint gap joint right) : (behindSeparator? (gap ++ (joint ++ right))).isSome := by
  have visible := joined.visible.2
  have gapOf (rest : Text) (shown : ∀ c ∈ rest.head?, isBlank c = false) :
      (gap ++ rest).takeWhile isBlank = gap ∧ (gap ++ rest).dropWhile isBlank = rest := by
    have shape : (gap ++ rest).dropWhile isBlank = rest := trimStart_gap blank shown
    have whole := List.takeWhile_append_dropWhile (p := isBlank) (l := gap ++ rest)
    rw [shape] at whole
    exact ⟨List.append_cancel_right whole, shape⟩
  have nonempty (sides : Spaced gap right) : gap ≠ [] := by
    rintro rfl
    simp [Spaced] at sides
  cases joined with
  | word _ t o first second sides =>
    obtain ⟨front, shape⟩ := gapOf ([t, o] ++ right) (by simpa using visible t (by simp))
    cases right with
    | nil => simp [Spaced] at sides
    | cons c rest =>
      have other : t ≠ '.' ∧ t ≠ '-' := by
        constructor <;> rintro rfl <;> cases first
      rw [behindSeparator?_of_two _ t o (c :: rest) shape, front]
      simpa [other, nonempty sides, first, second, Spaced] using sides.2
  | hyphen _ sides =>
    obtain ⟨front, shape⟩ := gapOf (['-'] ++ right) (by simpa using visible '-' (by simp))
    cases right with
    | nil => simp [Spaced] at sides
    | cons c rest =>
      rw [behindSeparator?_of_two _ '-' c rest shape, front]
      simpa [nonempty sides, Spaced] using sides.2
  | dots =>
    obtain ⟨front, shape⟩ := gapOf (['.', '.'] ++ right) (by simpa using visible '.' (by simp))
    rw [behindSeparator?_of_two _ '.' '.' right shape]
    simp

theorem isSome_splitRange?_append (front cs : Text) (split : (splitRange? cs).isSome) :
    (splitRange? (front ++ cs)).isSome := by
  induction front with
  | nil => exact split
  | cons c front ih =>
    rw [List.cons_append, splitRange?]
    split
    next => rfl
    next => rw [Option.isSome_map, ih]

theorem Text.Joint.isSome_splitRange? {left joint right : Text} (joined : Joint left joint right) :
    (splitRange? (left ++ joint ++ right)).isSome := by
  obtain ⟨kept, gap, rfl, blank, shown⟩ := exists_visible_end left
  have behind := isSome_behindSeparator? blank (joined.behind_visible shown)
  rw [List.append_assoc, List.append_assoc]
  apply isSome_splitRange?_append
  cases whole : gap ++ (joint ++ right) with
  | nil =>
    rw [whole] at behind
    cases behind
  | cons c cs =>
    rw [whole] at behind
    obtain ⟨rest, found⟩ := Option.isSome_iff_exists.mp behind
    simp [splitRange?, found]

end TaskQuery
