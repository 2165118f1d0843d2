import TaskQuery.Proofs.Text.Lines

set_option autoImplicit false

namespace TaskQuery.Text

theorem pieces_eq_splitOnP (sep : Char → Bool) (cs : Text) : pieces sep cs = cs.splitOnP sep := by
  induction cs with
  | nil => rfl
  | cons c cs ih =>
    obtain ⟨first, rest, behind⟩ := List.exists_cons_of_ne_nil (pieces_ne_nil sep cs)
    rw [behind] at ih
    by_cases ends : sep c = true <;>
      simp [pieces, List.splitOnP_cons_eq_if_modifyHead, ends, behind, ← ih]

theorem join_lines (cs : Text) : join "\n" (lines cs) = cs := by
  rw [join, lines, pieces_eq_splitOnP, ofString_eq]
  exact List.intercalate_splitOn '\n'

theorem lines_join (parts : List Text) (nonempty : parts ≠ []) (whole : ∀ part ∈ parts, '\n' ∉ part) :
    lines (join "\n" parts) = parts := by
  rw [join, lines, pieces_eq_splitOnP, ofString_eq]
  exact List.splitOn_intercalate '\n' whole nonempty

/-- A text without an empty line, so that an empty line can set it apart from others. -/
def IsBlock (cs : Text) : Prop :=
  [] ∉ lines cs

theorem isBlock_whole (cs : Text) (whole : '\n' ∉ cs) (nonempty : cs ≠ []) : IsBlock cs := by
  simp [IsBlock, lines_whole cs whole, Ne.symm nonempty]

theorem isBlock_append_break (front back : Text) :
    IsBlock (front ++ '\n' :: back) ↔ IsBlock front ∧ IsBlock back := by
  simp [IsBlock, lines_append_break, not_or]

def blocks (cs : Text) : List Text :=
  ((lines cs).splitOn []).map (join "\n")

theorem lines_join_blocks (parts : List Text) (nonempty : parts ≠ []) :
    lines (join "\n\n" parts) = [[]].intercalate (parts.map lines) := by
  induction parts with
  | nil => exact absurd rfl nonempty
  | cons part parts ih =>
    cases parts with
    | nil => simp [join]
    | cons next parts =>
      have breaks : ("\n\n" : Text) = ['\n', '\n'] := ofString_eq "\n\n"
      have whole : join "\n\n" (part :: next :: parts) =
          part ++ '\n' :: '\n' :: join "\n\n" (next :: parts) := by
        simp [join, breaks]
      rw [whole, lines_append_break, lines_cons_break, ih (List.cons_ne_nil _ _)]
      simp

theorem blocks_join (parts : List Text) (nonempty : parts ≠ [])
    (full : ∀ part ∈ parts, IsBlock part) : blocks (join "\n\n" parts) = parts := by
  have split : ((lines (join "\n\n" parts)).splitOn []) = parts.map lines := by
    rw [lines_join_blocks parts nonempty]
    exact List.splitOn_intercalate [] (by simpa [IsBlock] using full) (by simpa using nonempty)
  rw [blocks, split, List.map_map]
  exact List.map_id'' join_lines parts

end TaskQuery.Text
