set_option autoImplicit false

namespace TaskQuery

/-- Text as grammars and printers see it; strings appear only where files are read and written. -/
abbrev Text := List Char

-- Irreducible, so that a literal is one opaque word until a proof asks for its letters.
@[irreducible] def Text.ofString (s : String) : Text := s.toList

instance : Coe String Text := ⟨Text.ofString⟩

theorem Text.ofString_eq (s : String) : ofString s = s.toList := by
  simp [ofString]

def Text.pieces (sep : Char → Bool) : Text → List Text
  | [] => [[]]
  | c :: cs =>
    if sep c then [] :: pieces sep cs
    else match pieces sep cs with
      | [] => [[c]]
      | piece :: rest => (c :: piece) :: rest

theorem Text.pieces_ne_nil (sep : Char → Bool) (cs : Text) : pieces sep cs ≠ [] := by
  cases cs with
  | nil => simp [pieces]
  | cons c cs =>
    simp only [pieces]
    split
    next => simp
    next => split <;> simp

def Text.lines (source : Text) : List Text :=
  source.pieces (· == '\n')

def Text.join (separator : Text) (parts : List Text) : Text :=
  separator.intercalate parts

def Text.asciiLower (cs : Text) : Text :=
  cs.map Char.toLower

/-- What stands behind `word` at the front of a text, where two characters with the same
image count as one. -/
def Text.stripBy? (image : Char → Char) : Text → Text → Option Text
  | [], cs => some cs
  | _ :: _, [] => none
  | w :: word, c :: cs => if image w = image c then stripBy? image word cs else none

def Text.strip? (word cs : Text) : Option Text :=
  stripBy? id word cs

theorem Text.stripBy?_eq_some (image : Char → Char) (word cs rest : Text) :
    stripBy? image word cs = some rest ↔
      ∃ spelling, cs = spelling ++ rest ∧ spelling.map image = word.map image := by
  induction word generalizing cs with
  | nil => simp [stripBy?]
  | cons w word ih =>
    cases cs with
    | nil => simp [stripBy?]
    | cons c cs =>
      simp only [stripBy?]
      constructor
      next =>
        intro h
        split at h
        next same =>
          obtain ⟨spelling, rfl, images⟩ := (ih cs).mp h
          exact ⟨c :: spelling, rfl, by simp [images, same]⟩
        next => cases h
      next =>
        rintro ⟨spelling, shape, images⟩
        cases spelling with
        | nil => simp at images
        | cons s spelling =>
          simp only [List.cons_append, List.cons.injEq] at shape
          simp only [List.map_cons, List.cons.injEq] at images
          rw [if_pos (by rw [shape.1, images.1])]
          exact (ih cs).mpr ⟨spelling, shape.2, images.2⟩

theorem Text.strip?_eq_some (word cs rest : Text) :
    strip? word cs = some rest ↔ cs = word ++ rest := by
  simp [strip?, stripBy?_eq_some]

end TaskQuery
