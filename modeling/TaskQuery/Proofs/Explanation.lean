import TaskQuery.Explanation
import TaskQuery.Proofs.Text.Block

set_option autoImplicit false

namespace TaskQuery

open Text

namespace Explanation

def tree (description : Text) : List Explanation → Explanation
  | [] => .leaf description
  | child :: rest => .node description (child :: rest)

mutual

/-- An explanation with every node without children read as a leaf. -/
def settled : Explanation → Explanation
  | .leaf description => .leaf description
  | .node description children => tree description (settledAll children)

def settledAll : List Explanation → List Explanation
  | [] => []
  | child :: rest => child.settled :: settledAll rest

end

mutual

def remarks (depth : Nat) : Explanation → List (Nat × Text)
  | .leaf description => [(depth, description)]
  | .node description children => (depth, description) :: remarksBelow (depth + 1) children

def remarksBelow (depth : Nat) : List Explanation → List (Nat × Text)
  | [] => []
  | child :: rest => child.remarks depth ++ remarksBelow depth rest

end

def Tidy (explanation : Explanation) : Prop :=
  ∀ remark ∈ explanation.remarks 0, '\n' ∉ remark.2 ∧ remark.2.head? ≠ some ' '

theorem settled_eq (explanation : Explanation) :
    explanation.settled = tree explanation.description (settledAll explanation.children) := by
  cases explanation <;> rfl

theorem remarks_eq (depth : Nat) (explanation : Explanation) :
    explanation.remarks depth =
      (depth, explanation.description) :: remarksBelow (depth + 1) explanation.children := by
  cases explanation <;> simp [remarks, remarksBelow, description, children]

theorem sizeOf_children_lt (explanation : Explanation) :
    sizeOf explanation.children < sizeOf explanation := by
  cases explanation with
  | leaf description =>
    cases description <;> simp only [children, leaf.sizeOf_spec, List.nil.sizeOf_spec,
      List.cons.sizeOf_spec] <;> omega
  | node description children =>
    simp only [Explanation.children, node.sizeOf_spec]
    omega

theorem remarksBelow_head (depth : Nat) (children : List Explanation) (rest : List (Nat × Text))
    (higher : ∀ remark ∈ rest.head?, remark.1 < depth) :
    ∀ remark ∈ (remarksBelow depth children ++ rest).head?, remark.1 < depth + 1 := by
  cases children with
  | nil => exact fun remark first => Nat.lt_succ_of_lt (higher remark first)
  | cons child children => simp [remarksBelow, remarks_eq]

theorem remarksBelow_append_inj (depth : Nat) (children others : List Explanation)
    (rest rest' : List (Nat × Text)) (higher : ∀ remark ∈ rest.head?, remark.1 < depth)
    (higher' : ∀ remark ∈ rest'.head?, remark.1 < depth)
    (same : remarksBelow depth children ++ rest = remarksBelow depth others ++ rest') :
    settledAll children = settledAll others ∧ rest = rest' := by
  match children, others with
  | [], [] => exact ⟨rfl, same⟩
  | [], other :: others =>
    obtain rfl : rest = _ := same
    simp [remarksBelow, remarks_eq] at higher
  | child :: children, [] =>
    obtain rfl : _ = rest' := same
    simp [remarksBelow, remarks_eq] at higher'
  | child :: children, other :: others =>
    simp only [remarksBelow, remarks_eq, List.cons_append, List.append_assoc, List.cons.injEq,
      Prod.mk.injEq, true_and] at same
    obtain ⟨description, below⟩ := same
    -- A remark that is not deeper ends what belongs to the one above it, so the depths tell where
    -- each list of children ends.
    obtain ⟨inner, behind⟩ := remarksBelow_append_inj (depth + 1) child.children other.children
      _ _ (remarksBelow_head depth children rest higher)
      (remarksBelow_head depth others rest' higher') below
    obtain ⟨outer, ends⟩ := remarksBelow_append_inj depth children others rest rest' higher higher'
      behind
    exact ⟨by simp only [settledAll, settled_eq, description, inner, outer], ends⟩
termination_by sizeOf children
decreasing_by
  · have := sizeOf_children_lt child
    simp only [List.cons.sizeOf_spec]
    omega
  · simp only [List.cons.sizeOf_spec]
    omega

theorem remarks_inj {explanation other : Explanation}
    (same : explanation.remarks 0 = other.remarks 0) : explanation.settled = other.settled := by
  have alone (explanation : Explanation) :
      remarksBelow 0 [explanation] ++ [] = explanation.remarks 0 := by
    simp [remarksBelow]
  have inj := remarksBelow_append_inj 0 [explanation] [other] [] [] (by simp) (by simp)
    (by rw [alone, alone, same])
  simpa [settledAll] using inj

mutual

theorem remarks_settled (depth : Nat) (explanation : Explanation) :
    explanation.settled.remarks depth = explanation.remarks depth := by
  cases explanation with
  | leaf description => rfl
  | node description children =>
    have below := remarksBelow_settledAll (depth + 1) children
    cases settle : settledAll children with
    | nil =>
      rw [settle] at below
      simp [settled, settle, tree, remarks, ← below, remarksBelow]
    | cons child rest =>
      rw [settle] at below
      simp [settled, settle, tree, remarks, below]

theorem remarksBelow_settledAll (depth : Nat) (children : List Explanation) :
    remarksBelow depth (settledAll children) = remarksBelow depth children := by
  cases children with
  | nil => rfl
  | cons child rest =>
    rw [settledAll, remarksBelow, remarksBelow, remarks_settled depth child,
      remarksBelow_settledAll depth rest]

end

theorem remarks_eq_iff (explanation other : Explanation) :
    explanation.remarks 0 = other.remarks 0 ↔ explanation.settled = other.settled := by
  constructor
  · exact remarks_inj
  · intro same
    rw [← remarks_settled, same, remarks_settled]

def line (indentation : Text) (remark : Nat × Text) : Text :=
  indentation ++ List.replicate (2 * remark.1) ' ' ++ remark.2

def remarkOn (indentation line : Text) : Nat × Text :=
  let behind := line.drop indentation.length
  ((behind.takeWhile (· == ' ')).length / 2, behind.dropWhile (· == ' '))

theorem remarkOn_line (indentation : Text) (remark : Nat × Text)
    (flush : remark.2.head? ≠ some ' ') :
    remarkOn indentation (line indentation remark) = remark := by
  obtain ⟨depth, description⟩ := remark
  have stop : description.takeWhile (· == ' ') = [] ∧
      description.dropWhile (· == ' ') = description := by
    cases description with
    | nil => exact ⟨rfl, rfl⟩
    | cons c cs =>
      have visible : c ≠ ' ' := by simpa using flush
      simp [visible]
  simp [remarkOn, line, List.takeWhile_append_of_pos, List.dropWhile_append_of_pos, stop]

mutual

theorem render_eq_lines (indentation : Text) (depth : Nat) (explanation : Explanation) :
    '\n' :: explanation.render (indentation ++ List.replicate (2 * depth) ' ') =
      (explanation.remarks depth).flatMap fun remark => '\n' :: line indentation remark := by
  cases explanation with
  | leaf description => simp [render, remarks, line]
  | node description children =>
    have two : ofString "  " = List.replicate 2 ' ' := by
      simp [ofString_eq]
    have blanks : List.replicate (2 * depth) ' ' ++ ofString "  " =
        List.replicate (2 * (depth + 1)) ' ' := by
      rw [two, List.replicate_append_replicate, Nat.mul_succ]
    have deeper := renderBelow_eq_lines indentation (depth + 1) children
    rw [render, List.append_assoc _ _ (ofString "  "), blanks, deeper]
    simp [remarks, line]

theorem renderBelow_eq_lines (indentation : Text) (depth : Nat) (children : List Explanation) :
    renderBelow (indentation ++ List.replicate (2 * depth) ' ') children =
      (remarksBelow depth children).flatMap fun remark => '\n' :: line indentation remark := by
  cases children with
  | nil => rfl
  | cons child rest =>
    have first := render_eq_lines indentation depth child
    have behind := renderBelow_eq_lines indentation depth rest
    rw [renderBelow, remarksBelow, List.flatMap_append, ← first, ← behind]

end

theorem cons_join_lines (parts : List Text) (nonempty : parts ≠ []) :
    '\n' :: join "\n" parts = parts.flatMap ('\n' :: ·) := by
  induction parts with
  | nil => exact absurd rfl nonempty
  | cons part parts ih =>
    cases parts with
    | nil => simp [join]
    | cons next parts =>
      rw [List.flatMap_cons, ← ih (List.cons_ne_nil _ _)]
      simp [join, ofString_eq]

theorem render_eq_join (indentation : Text) (explanation : Explanation) :
    explanation.render indentation =
      join "\n" ((explanation.remarks 0).map (line indentation)) := by
  have lines := render_eq_lines indentation 0 explanation
  have some_line : (explanation.remarks 0).map (line indentation) ≠ [] := by
    simp [remarks_eq]
  rw [← List.flatMap_map (line indentation), ← cons_join_lines _ some_line] at lines
  simpa using lines

section

variable (indentation : Text) (whole : '\n' ∉ indentation) (explanation : Explanation)
  (tidy : explanation.Tidy)
include whole tidy

theorem lines_render :
    lines (explanation.render indentation) = (explanation.remarks 0).map (line indentation) := by
  rw [render_eq_join, lines_join _ (by simp [remarks_eq])]
  rw [List.forall_mem_map]
  intro remark member
  simp [line, whole, (tidy remark member).1]

theorem remarks_of_render :
    (lines (explanation.render indentation)).map (remarkOn indentation) =
      explanation.remarks 0 := by
  rw [lines_render indentation whole explanation tidy, List.map_map]
  have each : ∀ remark ∈ explanation.remarks 0,
      remarkOn indentation (line indentation remark) = id remark :=
    fun remark member => remarkOn_line indentation remark (tidy remark member).2
  exact (List.map_congr_left each).trans (List.map_id _)

end

/-- A rendering shows an explanation up to nodes without children, and its indentation stands in
front of every line. -/
theorem render_keeps_remarks (explanation other : Explanation) (indentation : Text)
    (whole : '\n' ∉ indentation) (tidy : explanation.Tidy) (tidy' : other.Tidy) :
    (explanation.render indentation = other.render indentation ↔
        explanation.settled = other.settled) ∧
      explanation.render indentation =
        join "\n" ((lines explanation.text).map (indentation ++ ·)) := by
  constructor
  · rw [← remarks_eq_iff]
    constructor
    · intro same
      rw [← remarks_of_render indentation whole explanation tidy, same,
        remarks_of_render indentation whole other tidy']
    · intro same
      rw [render_eq_join, render_eq_join, same]
  · rw [text, lines_render [] (by simp) explanation tidy, List.map_map, render_eq_join]
    congr 2
    funext remark
    simp [line]

end Explanation

def nested : Explanation :=
  .node "all of:" [.leaf [], .node "one of:" [.leaf "top3 date is on"]]

def hollow : Explanation :=
  .node "all of:" [.node [] [], .node "one of:" [.leaf "top3 date is on"]]

theorem nested_shown_as_hollow :
    '\n' ∉ (">" : Text) ∧ nested.Tidy ∧ hollow.Tidy ∧ nested.settled = hollow.settled ∧
      nested.render ">" = hollow.render ">" ∧
      nested.render ">" =
        Text.join "\n" [">all of:", ">  ", ">  one of:", ">    top3 date is on"] := by
  have whole : '\n' ∉ (">" : Text) := by
    simp [Text.ofString_eq]
  have tidy : nested.Tidy := by
    simp [Explanation.Tidy, nested, Explanation.remarks, Explanation.remarksBelow, Text.ofString_eq]
  have tidy' : hollow.Tidy := by
    simp [Explanation.Tidy, hollow, Explanation.remarks, Explanation.remarksBelow, Text.ofString_eq]
  have settled : nested.settled = hollow.settled := rfl
  obtain ⟨same, lines⟩ := nested.render_keeps_remarks hollow ">" whole tidy tidy'
  refine ⟨whole, tidy, tidy', settled, same.mpr settled, ?_⟩
  rw [lines]
  with_unfolding_all rfl

end TaskQuery
