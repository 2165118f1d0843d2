import TaskQuery.Json.Scan

set_option autoImplicit false

namespace TaskQuery

/-- A value around the place where a text is being read, its parts kept last one first. -/
inductive Frame where
  | array (items : List Json)
  | object (members : List (JsonString × Json)) (key : JsonString)

inductive Reading where
  | value (frames : List Frame)
  | items (frames : List Frame)
  | members (frames : List Frame)
  | key (members : List (JsonString × Json)) (frames : List Frame)
  | colon (members : List (JsonString × Json)) (key : JsonString) (frames : List Frame)
  | behind (json : Json) (frames : List Frame)

namespace Reading

def begin? (frames : List Frame) : Token → Option Reading
  | .scalar scalar => some (behind (.scalar scalar) frames)
  | .openArray => some (items frames)
  | .openObject => some (members frames)
  | _ => none

def step : Reading → Token → Option Reading
  | value frames, token => begin? frames token
  | items frames, .closeArray => some (behind (.array []) frames)
  | items frames, token => begin? (.array [] :: frames) token
  | members frames, .closeObject => some (behind (.object []) frames)
  | members frames, .scalar (.string name) => some (colon [] name frames)
  | key before frames, .scalar (.string name) => some (colon before name frames)
  | colon before name frames, .colon => some (value (.object before name :: frames))
  | behind json (.array before :: frames), .comma =>
    some (value (.array (json :: before) :: frames))
  | behind json (.array before :: frames), .closeArray =>
    some (behind (.array (json :: before).reverse) frames)
  | behind json (.object before name :: frames), .comma =>
    some (key ((name, json) :: before) frames)
  | behind json (.object before name :: frames), .closeObject =>
    some (behind (.object ((name, json) :: before).reverse) frames)
  | _, _ => none

def run : Reading → List Token → Option Reading
  | reading, [] => some reading
  | reading, token :: tokens => (reading.step token).bind (run · tokens)

def whole? : Reading → Option Json
  | behind json [] => some json
  | _ => none

end Reading

def Json.ofTokens? (tokens : List Token) : Option Json :=
  ((Reading.value []).run tokens).bind Reading.whole?

theorem items_run_tokens (json : Json) (frames : List Frame) (rest : List Token) :
    (Reading.items frames).run (json.tokens ++ rest) =
      (Reading.value (.array [] :: frames)).run (json.tokens ++ rest) := by
  cases json <;> rfl

mutual

theorem Json.run_tokens (json : Json) (frames : List Frame) (rest : List Token) :
    (Reading.value frames).run (json.tokens ++ rest) = (Reading.behind json frames).run rest := by
  match json with
  | .scalar value => rfl
  | .array [] => rfl
  | .array (item :: items) =>
    have inner := run_itemTokens (item :: items) [] (by simp) frames rest
    simp only [Json.tokens, List.cons_append, List.append_assoc, List.nil_append, Reading.run,
      Reading.step, Reading.begin?, Option.bind_some]
    have first : (Reading.items frames).run (itemTokens (item :: items) ++ .closeArray :: rest) =
        (Reading.value (.array [] :: frames)).run
          (itemTokens (item :: items) ++ .closeArray :: rest) := by
      cases items with
      | nil => exact items_run_tokens item frames _
      | cons next items =>
        simp only [itemTokens, List.append_assoc]
        exact items_run_tokens item frames _
    rw [first, inner]
    rfl
  | .object [] => rfl
  | .object ((key, value) :: members) =>
    have inner := run_memberTokens ((key, value) :: members) [] (by simp) frames rest
    simp only [Json.tokens, List.cons_append, List.append_assoc, List.nil_append, Reading.run,
      Reading.step, Reading.begin?, Option.bind_some]
    have first : (Reading.members frames).run
          (memberTokens ((key, value) :: members) ++ .closeObject :: rest) =
        (Reading.key [] frames).run
          (memberTokens ((key, value) :: members) ++ .closeObject :: rest) := by
      cases members <;> rfl
    rw [first, inner]
    rfl

theorem run_itemTokens (items before : List Json) (some_item : items ≠ [])
    (frames : List Frame) (rest : List Token) :
    (Reading.value (.array before :: frames)).run (itemTokens items ++ .closeArray :: rest) =
      (Reading.behind (.array (before.reverse ++ items)) frames).run rest := by
  match items with
  | [] => exact absurd rfl some_item
  | [item] =>
    simp only [itemTokens]
    rw [Json.run_tokens item]
    simp [Reading.run, Reading.step]
  | item :: next :: items =>
    simp only [itemTokens, List.append_assoc, List.cons_append]
    rw [Json.run_tokens item]
    have inner := run_itemTokens (next :: items) (item :: before) (by simp) frames rest
    simp only [Reading.run, Reading.step, Option.bind_some]
    rw [inner]
    simp

theorem run_memberTokens (members before : List (JsonString × Json)) (some_member : members ≠ [])
    (frames : List Frame) (rest : List Token) :
    (Reading.key before frames).run (memberTokens members ++ .closeObject :: rest) =
      (Reading.behind (.object (before.reverse ++ members)) frames).run rest := by
  match members with
  | [] => exact absurd rfl some_member
  | [(key, value)] =>
    simp only [memberTokens, List.cons_append, Reading.run, Reading.step, Option.bind_some]
    rw [Json.run_tokens value]
    simp [Reading.run, Reading.step]
  | (key, value) :: next :: members =>
    simp only [memberTokens, List.append_assoc, List.cons_append, Reading.run, Reading.step,
      Option.bind_some]
    rw [Json.run_tokens value]
    have inner := run_memberTokens (next :: members) ((key, value) :: before) (by simp) frames rest
    simp only [Reading.run, Reading.step, Option.bind_some]
    rw [inner]
    simp

end

theorem Json.ofTokens?_tokens (json : Json) : ofTokens? json.tokens = some json := by
  have whole := json.run_tokens [] []
  rw [List.append_nil] at whole
  simp [ofTokens?, whole, Reading.run, Reading.whole?]

def Json.read? (cs : Text) : Option Json :=
  (Token.scan? cs).bind ofTokens?

end TaskQuery
