import TaskQuery.Text.Basic

set_option autoImplicit false

namespace TaskQuery.Text

structure LineAt (before raw after source : Text) : Prop where
  shape : source = before ++ raw ++ after
  whole : '\n' ∉ raw
  front : before = [] ∨ ∃ earlier, before = earlier ++ ['\n']
  back : after = [] ∨ ∃ later, after = '\n' :: later

theorem exists_lines_eq_cons (cs : Text) : ∃ line rest, lines cs = line :: rest :=
  List.exists_cons_of_ne_nil (pieces_ne_nil (· == '\n') cs)

theorem lines_cons_break (cs : Text) : lines ('\n' :: cs) = [] :: lines cs := by
  simp [lines, pieces]

theorem lines_cons (c : Char) (cs line : Text) (rest : List Text) (whole : c ≠ '\n')
    (behind : lines cs = line :: rest) : lines (c :: cs) = (c :: line) :: rest := by
  simp only [lines] at behind
  simp [lines, pieces, whole, behind]

theorem lines_append_break (front back : Text) :
    lines (front ++ '\n' :: back) = lines front ++ lines back := by
  induction front with
  | nil => exact lines_cons_break back
  | cons c cs ih =>
    by_cases ends : c = '\n'
    · rw [ends, List.cons_append, lines_cons_break, lines_cons_break, ih, List.cons_append]
    · obtain ⟨line, rest, behind⟩ := exists_lines_eq_cons cs
      rw [lines_cons c cs line rest ends behind]
      rw [behind] at ih
      exact lines_cons c _ line _ ends ih

theorem lines_whole (raw : Text) (whole : '\n' ∉ raw) : lines raw = [raw] := by
  induction raw with
  | nil => rfl
  | cons c cs ih =>
    simp only [List.mem_cons, not_or] at whole
    exact lines_cons c cs cs [] (Ne.symm whole.1) (ih whole.2)

theorem length_lines (cs : Text) : (lines cs).length = cs.count '\n' + 1 := by
  induction cs with
  | nil => rfl
  | cons c cs ih =>
    by_cases ends : c = '\n'
    · rw [ends, lines_cons_break, List.length_cons, ih, List.count_cons_self]
    · obtain ⟨line, rest, behind⟩ := exists_lines_eq_cons cs
      rw [lines_cons c cs line rest ends behind, List.count_cons_of_ne ends, ← ih, behind]
      rfl

theorem lines_eq_cons (cs raw : Text) (rest : List Text) (shape : lines cs = raw :: rest) :
    '\n' ∉ raw ∧
      ((cs = raw ∧ rest = []) ∨ ∃ later, cs = raw ++ '\n' :: later ∧ lines later = rest) := by
  induction cs generalizing raw with
  | nil =>
    obtain ⟨rfl, rfl⟩ : [] = raw ∧ [] = rest := by simpa [lines, pieces] using shape
    simp
  | cons c cs ih =>
    by_cases ends : c = '\n'
    · rw [ends, lines_cons_break, List.cons.injEq] at shape
      obtain ⟨rfl, behind⟩ := shape
      exact ⟨by simp, .inr ⟨cs, by simp [ends], behind⟩⟩
    · obtain ⟨line, more, behind⟩ := exists_lines_eq_cons cs
      rw [lines_cons c cs line more ends behind, List.cons.injEq] at shape
      obtain ⟨rfl, rfl⟩ := shape
      obtain ⟨whole, found⟩ := ih line behind
      refine ⟨by simp [whole, Ne.symm ends], ?_⟩
      rcases found with ⟨rfl, rfl⟩ | ⟨later, rfl, tail⟩
      · exact .inl ⟨rfl, rfl⟩
      · exact .inr ⟨later, rfl, tail⟩

theorem LineAt.lines_eq {before raw after source : Text} (place : LineAt before raw after source) :
    ∃ front back, lines source = front ++ raw :: back ∧ lines before = front ++ [[]] := by
  obtain ⟨rfl, whole, front, back⟩ := place
  have tail : ∃ later, lines (raw ++ after) = raw :: later := by
    rcases back with rfl | ⟨later, rfl⟩
    · exact ⟨[], by rw [List.append_nil, lines_whole raw whole]⟩
    · exact ⟨lines later, by rw [lines_append_break, lines_whole raw whole]; rfl⟩
  obtain ⟨later, tail⟩ := tail
  -- The text in front of the line ends with the empty rest behind its last break.
  rcases front with rfl | ⟨earlier, rfl⟩
  · exact ⟨[], later, tail, rfl⟩
  · refine ⟨lines earlier, later, ?_, lines_append_break earlier []⟩
    rw [← tail, ← lines_append_break]
    simp

theorem exists_lineAt (source raw : Text) (front back : List Text)
    (shape : lines source = front ++ raw :: back) :
    ∃ before after, LineAt before raw after source ∧ lines before = front ++ [[]] := by
  induction front generalizing source with
  | nil =>
    obtain ⟨whole, ⟨rfl, _⟩ | ⟨later, rfl, _⟩⟩ := lines_eq_cons source raw back shape
    · exact ⟨[], [], ⟨by simp, whole, .inl rfl, .inl rfl⟩, rfl⟩
    · exact ⟨[], '\n' :: later, ⟨by simp, whole, .inl rfl, .inr ⟨later, rfl⟩⟩, rfl⟩
  | cons first front ih =>
    obtain ⟨whole, ⟨_, ends⟩ | ⟨later, rfl, tail⟩⟩ := lines_eq_cons source first _ shape
    · simp at ends
    · obtain ⟨before, after, place, lead⟩ := ih later tail
      refine ⟨first ++ '\n' :: before, after, ⟨?_, place.whole, .inr ?_, place.back⟩, ?_⟩
      · simp [place.shape]
      · rcases place.front with rfl | ⟨earlier, rfl⟩
        · exact ⟨first, rfl⟩
        · exact ⟨first ++ '\n' :: earlier, by simp⟩
      · rw [lines_append_break, lines_whole first whole, lead]
        rfl

theorem whole_of_mem_lines (source raw : Text) (member : raw ∈ lines source) : '\n' ∉ raw := by
  obtain ⟨front, back, shape⟩ := List.append_of_mem member
  obtain ⟨_, _, place, _⟩ := exists_lineAt source raw front back shape
  exact place.whole

end TaskQuery.Text
