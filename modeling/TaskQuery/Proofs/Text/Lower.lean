import Mathlib.Data.List.Basic
import TaskQuery.Proofs.Text.Blank

set_option autoImplicit false

namespace TaskQuery

theorem simpleLower_eq_iff (c letter : Char) (ascii : isAscii letter = true) (k : letter ≠ 'k') :
    simpleLower c = letter ↔ c.toLower = letter := by
  cases narrow : isAscii c with
  | true => rw [simpleLower, if_pos narrow]
  | false =>
    have lower := toLower_ne_of_not_ascii c letter narrow ascii
    simp only [lower, iff_false]
    intro same
    by_cases kelvin : c = '\u212A'
    · have folded : simpleLower '\u212A' = 'k' := by decide
      rw [kelvin, folded] at same
      exact k same.symm
    · have wide := image_lowerRuns_wide c ((isAscii_eq_false c).mp narrow)
        fun same => kelvin (Char.toNat_inj.mp same)
      rw [simpleLower, if_neg (by simp [narrow])] at same
      rw [same, ← isAscii_eq_false, ascii] at wide
      cases wide

namespace Text

theorem lowerBehind_append (before front back : Text) :
    lowerBehind (front.reverse ++ before) back <:+ lowerBehind before (front ++ back) := by
  induction front generalizing before with
  | nil => exact List.suffix_rfl
  | cons c front ih =>
    have behind := ih (c :: before)
    rw [List.reverse_cons, List.append_assoc]
    exact behind.trans (List.suffix_append _ _)

theorem lowerBehind_front (before front back : Text) (ascii : ∀ c ∈ front, isAscii c = true) :
    lowerBehind before (front ++ back) =
      asciiLower front ++ lowerBehind (front.reverse ++ before) back := by
  induction front generalizing before with
  | nil => rfl
  | cons c front ih =>
    rw [List.forall_mem_cons] at ascii
    have sigma : c ≠ '\u03A3' := by
      rintro rfl
      cases ascii.1
    have dotted : c ≠ '\u0130' := by
      rintro rfl
      cases ascii.1
    simp [lowerBehind, lowerOf, simpleLower, asciiLower, sigma, dotted, ascii.1,
      ih (c :: before) ascii.2]

theorem lowerBehind_of_ascii (before cs : Text) (ascii : ∀ c ∈ cs, isAscii c = true) :
    lowerBehind before cs = asciiLower cs := by
  have whole := lowerBehind_front before cs [] ascii
  simpa [lowerBehind] using whole

theorem lower_prefix (front back : Text) (ascii : ∀ c ∈ front, isAscii c = true) :
    asciiLower front <+: lower (front ++ back) := by
  rw [lower, lowerBehind_front [] front back ascii]
  exact List.prefix_append _ _

theorem lower_suffix (front back : Text) (ascii : ∀ c ∈ back, isAscii c = true) :
    asciiLower back <:+ lower (front ++ back) := by
  have behind := lowerBehind_append [] front back
  rwa [lowerBehind_of_ascii _ back ascii] at behind

theorem lowerSigma_wide (before after : Text) : isAscii (lowerSigma before after) = false := by
  unfold lowerSigma
  split <;> decide

-- The letter k is left out because the Kelvin sign has it as its small letter, and i because the
-- small letters of the dotted capital I are an i and a dot.
theorem exists_of_mem_lowerBehind (before cs : Text) (letter : Char)
    (ascii : isAscii letter = true) (k : letter ≠ 'k') (i : letter ≠ 'i')
    (member : letter ∈ lowerBehind before cs) : ∃ c ∈ cs, c.toLower = letter := by
  induction cs generalizing before with
  | nil => simp [lowerBehind] at member
  | cons c cs ih =>
    rcases List.mem_append.mp member with here | behind
    · refine ⟨c, List.mem_cons_self, (simpleLower_eq_iff c letter ascii k).mp ?_⟩
      have wide := lowerSigma_wide before cs
      split at here
      next =>
        obtain rfl := List.mem_singleton.mp here
        rw [ascii] at wide
        cases wide
      next =>
        unfold lowerOf at here
        split at here
        next =>
          have dot : letter ≠ '\u0307' := by
            rintro rfl
            cases ascii
          simp [i, dot] at here
        next => exact (List.mem_singleton.mp here).symm
    · obtain ⟨c, inside, small⟩ := ih _ behind
      exact ⟨c, List.mem_cons_of_mem _ inside, small⟩

theorem toLower_of_lowerBehind (before : Text) (c letter : Char) (ascii : isAscii letter = true)
    (k : letter ≠ 'k') (ends : (lowerBehind before [c]).getLast? = some letter) :
    c.toLower = letter := by
  rw [← simpleLower_eq_iff c letter ascii k]
  by_cases sigma : c = '\u03A3'
  · have wide := lowerSigma_wide before []
    simp only [lowerBehind, sigma, if_true, List.append_nil, List.getLast?_singleton,
      Option.some.injEq] at ends
    rw [ends, ascii] at wide
    cases wide
  by_cases dotted : c = '\u0130'
  · simp only [lowerBehind, lowerOf, dotted, if_true] at ends
    cases ends
    cases ascii
  · simpa [lowerBehind, lowerOf, sigma, dotted] using ends

theorem lower_unbroken (cs : Text) (whole : '\n' ∉ cs) : '\n' ∉ lower cs := by
  intro member
  obtain ⟨c, inside, small⟩ :=
    exists_of_mem_lowerBehind [] cs '\n' (by decide) (by decide) (by decide) member
  rw [toLower_eq_sign c '\n' (by decide)] at small
  rw [small] at inside
  exact whole inside

theorem lowerBehind_ne_nil (before : Text) (c : Char) : lowerBehind before [c] ≠ [] := by
  unfold lowerBehind lowerOf
  split
  next => simp
  next => split <;> simp

theorem closing?_of_lower (cs : Text) (letter : Char) (ascii : isAscii letter = true)
    (k : letter ≠ 'k') (visible : isBlank letter = false)
    (ends : (lower cs).getLast? = some letter) : closing? cs = some letter := by
  rcases List.eq_nil_or_concat cs with rfl | ⟨front, c, rfl⟩
  · simp [lower, lowerBehind] at ends
  rw [List.concat_eq_append] at *
  have last : (lowerBehind (front.reverse ++ []) [c]).getLast? = some letter := by
    obtain ⟨before, whole⟩ := lowerBehind_append [] front [c]
    rw [lower, ← whole] at ends
    rwa [List.getLast?_append_of_ne_nil _ (lowerBehind_ne_nil _ c)] at ends
  have small := toLower_of_lowerBehind _ c letter ascii k last
  rw [closing?_concat front c (by rw [← isBlank_toLower, small, visible]), small]

end Text
end TaskQuery
