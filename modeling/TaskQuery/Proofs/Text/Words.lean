import TaskQuery.Proofs.Text.Lower

set_option autoImplicit false

namespace TaskQuery

-- The scan over both tables is deep.
set_option maxRecDepth 4000 in
theorem lowerRuns_visible : lowerRuns.all (fun run => blanks.all fun blank =>
    decide (run.last + run.shift < blank.1) || decide (blank.2 < run.first + run.shift)) = true := by
  decide

theorem isBlank_image_lowerRuns (c : Char) (visible : isBlank c = false) :
    isBlank (CaseRun.image lowerRuns c) = false := by
  have lands : ∀ run ∈ lowerRuns, run.Lands := fun run member =>
    (lowerRuns_lands_wide run member).1
  rcases CaseRun.toNat_image lowerRuns lands c with same | ⟨run, member, ge, le, image⟩
  · rwa [same]
  · rw [← Bool.not_eq_true, isBlank, CodeRanges.has_iff]
    rintro ⟨blank, known, above, below⟩
    have apart := List.all_eq_true.mp (List.all_eq_true.mp lowerRuns_visible run member) blank known
    simp only [Bool.or_eq_true, decide_eq_true_eq] at apart
    omega

theorem isBlank_simpleLower (c : Char) (visible : isBlank c = false) :
    isBlank (simpleLower c) = false := by
  unfold simpleLower
  split
  next => rwa [isBlank_toLower]
  next => exact isBlank_image_lowerRuns c visible

theorem beginsCased_fenced (front before : Text) (fence : Char)
    (counts : isCaseIgnorable fence = false) (uncased : isCased fence = false) :
    beginsCased (front ++ fence :: before) = beginsCased front := by
  induction front with
  | nil => simp [beginsCased, counts, uncased]
  | cons c front ih =>
    unfold beginsCased at ih ⊢
    cases ignored : isCaseIgnorable c with
    | true => simpa [ignored] using ih
    | false => simp [ignored]

theorem lowerBehind_fenced (front before cs : Text) (fence : Char)
    (counts : isCaseIgnorable fence = false) (uncased : isCased fence = false) :
    lowerBehind (front ++ fence :: before) cs = lowerBehind front cs := by
  induction cs generalizing front with
  | nil => rfl
  | cons c cs ih =>
    simp only [lowerBehind, lowerSigma, beginsCased_fenced front before fence counts uncased,
      ← List.cons_append, ih]

set_option maxRecDepth 4000 in
theorem isCaseIgnorable_space : isCaseIgnorable ' ' = false := by
  decide

namespace Text

theorem lower_opening (opening cs : Text) (ascii : ∀ c ∈ opening, isAscii c = true)
    (small : opening.asciiLower = opening) (ends : opening.getLast? = some ' ') :
    lower (opening ++ cs) = opening ++ lower cs := by
  have back : ∃ front, opening.reverse ++ [] = [] ++ ' ' :: front := by
    obtain ⟨front, rfl⟩ := List.getLast?_eq_some_iff.mp ends
    exact ⟨front.reverse, by simp⟩
  obtain ⟨front, back⟩ := back
  rw [lower, lowerBehind_front [] opening cs ascii, small, back,
    lowerBehind_fenced [] front cs ' ' isCaseIgnorable_space (by decide), lower]

theorem visible_of_mem_lowerOf (c : Char) (visible : isBlank c = false) :
    ∀ d ∈ lowerOf c, isBlank d = false := by
  unfold lowerOf
  split
  next =>
    intro d member
    rcases List.mem_pair.mp member with rfl | rfl <;> decide
  next => simpa using isBlank_simpleLower c visible

theorem isBlank_lowerSigma (before after : Text) : isBlank (lowerSigma before after) = false := by
  unfold lowerSigma
  split <;> decide

theorem lowerBehind_cons (before cs : Text) (c : Char) (visible : isBlank c = false) :
    ∃ d small, lowerBehind before (c :: cs) = d :: small ++ lowerBehind (c :: before) cs ∧
      ∀ e ∈ d :: small, isBlank e = false := by
  by_cases sigma : c = '\u03A3'
  · refine ⟨lowerSigma before cs, [], by simp [lowerBehind, sigma], ?_⟩
    simpa using isBlank_lowerSigma before cs
  · have shown := visible_of_mem_lowerOf c visible
    have some : lowerOf c ≠ [] := by
      unfold lowerOf
      split <;> simp
    obtain ⟨d, small, shape⟩ := List.exists_cons_of_ne_nil some
    exact ⟨d, small, by simp [lowerBehind, sigma, shape], by rwa [← shape]⟩

theorem lowerBehind_visible (before cs : Text) (visible : ∀ c ∈ cs, isBlank c = false) :
    ∀ c ∈ lowerBehind before cs, isBlank c = false := by
  induction cs generalizing before with
  | nil => simp [lowerBehind]
  | cons c cs ih =>
    rw [List.forall_mem_cons] at visible
    obtain ⟨d, small, shape, shown⟩ := lowerBehind_cons before cs c visible.1
    rw [shape, List.forall_mem_append]
    exact ⟨shown, ih _ visible.2⟩

structure Framed (cs : Text) : Prop where
  opens : ∃ c, cs.head? = some c ∧ isBlank c = false
  closes : ∃ c, cs.getLast? = some c ∧ isBlank c = false

theorem Framed.ne_nil {cs : Text} (framed : cs.Framed) : cs ≠ [] := by
  obtain ⟨⟨c, first, _⟩, _⟩ := framed
  exact List.ne_nil_of_mem (List.mem_of_head? first)

theorem Framed.trim_between {cs : Text} (framed : cs.Framed) (lead trail : Text)
    (before : lead.all isBlank = true) (after : trail.all isBlank = true) :
    (lead ++ cs ++ trail).trim = cs := by
  obtain ⟨⟨c, first, visible⟩, ⟨d, last, visible'⟩⟩ := framed
  have front : trimStart (lead ++ (cs ++ trail)) = cs ++ trail :=
    trimStart_gap before (by simp [first, visible])
  have back : trimStart (trail.reverse ++ cs.reverse) = cs.reverse :=
    trimStart_gap (by simpa using after) (by simp [last, visible'])
  rw [Text.trim, List.append_assoc, front, List.reverse_append, back, List.reverse_reverse]

theorem Framed.trim {cs : Text} (framed : cs.Framed) : cs.trim = cs := by
  simpa using framed.trim_between [] [] rfl rfl

theorem framed_cons (c : Char) (cs : Text) (visible : isBlank c = false)
    (ends : ∀ d ∈ cs.getLast?, isBlank d = false) : Framed (c :: cs) := by
  refine ⟨⟨c, rfl, visible⟩, ?_⟩
  rw [List.getLast?_cons]
  cases last : cs.getLast? with
  | none => exact ⟨c, rfl, visible⟩
  | some d => exact ⟨d, rfl, ends d last⟩

theorem framed_of_trim {cs : Text} (trimmed : cs.trim = cs) (nonempty : cs ≠ []) : cs.Framed := by
  constructor
  · obtain ⟨c, rest, rfl⟩ := List.exists_cons_of_ne_nil nonempty
    refine ⟨c, rfl, head?_trimStart (c :: rest) c ?_⟩
    obtain ⟨tail, whole⟩ := trim_initial (c :: rest)
    rw [← whole, trimmed]
    rfl
  · obtain ⟨rest, c, rfl⟩ := List.eq_nil_or_concat cs |>.resolve_left nonempty
    refine ⟨c, by simp, head?_trimStart (trimStart (rest.concat c)).reverse c ?_⟩
    have shape := congrArg List.head? (congrArg List.reverse trimmed)
    rw [Text.trim, List.reverse_reverse] at shape
    rw [shape]
    simp

theorem Framed.append {cs : Text} (framed : cs.Framed) (front : Text)
    (opens : ∃ c, front.head? = some c ∧ isBlank c = false) : (front ++ cs).Framed := by
  obtain ⟨c, first, visible⟩ := opens
  obtain ⟨d, last, visible'⟩ := framed.closes
  exact ⟨⟨c, by simp [first], visible⟩, ⟨d, by simp [last], visible'⟩⟩

theorem Framed.lower {cs : Text} (framed : cs.Framed) (before : Text) :
    (lowerBehind before cs).Framed := by
  obtain ⟨⟨c, first, visible⟩, ⟨d, last, visible'⟩⟩ := framed
  constructor
  · obtain ⟨rest, rfl⟩ := List.head?_eq_some_iff.mp first
    obtain ⟨small, more, shape, shown⟩ := lowerBehind_cons before rest c visible
    exact ⟨small, by simp [shape], shown small List.mem_cons_self⟩
  · obtain ⟨rest, rfl⟩ := List.getLast?_eq_some_iff.mp last
    obtain ⟨small, more, shape, shown⟩ := lowerBehind_cons (rest.reverse ++ before) [] d visible'
    obtain ⟨front, whole⟩ := lowerBehind_append before rest [d]
    rw [shape, TaskQuery.lowerBehind, List.append_nil] at whole
    have ends := List.getLast?_eq_some_getLast (List.cons_ne_nil small more)
    refine ⟨_, ?_, shown _ (List.getLast_mem (List.cons_ne_nil small more))⟩
    rw [← whole, List.getLast?_append, ends]
    rfl

theorem words_visible (cs : Text) (nonempty : cs ≠ []) (visible : ∀ c ∈ cs, isBlank c = false) :
    words cs = [cs] := by
  have pieces : pieces isBlank cs = [cs] := by
    induction cs with
    | nil => exact absurd rfl nonempty
    | cons c cs ih =>
      rw [List.forall_mem_cons] at visible
      cases cs with
      | nil => simp [Text.pieces, visible.1]
      | cons d cs =>
        have behind := ih (List.cons_ne_nil d cs) visible.2
        rw [Text.pieces, behind]
        simp [visible.1]
  simp [words, pieces, nonempty]

end Text
end TaskQuery
