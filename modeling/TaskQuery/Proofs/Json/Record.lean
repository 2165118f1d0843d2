import Mathlib.Data.List.Forall2
import TaskQuery.Json.Basic

set_option autoImplicit false

namespace TaskQuery

theorem mapM_eq_some_iff {α β : Type} (read? : α → Option β) (items : List α) (outs : List β) :
    items.mapM read? = some outs ↔
      List.Forall₂ (fun item out => read? item = some out) items outs := by
  induction items generalizing outs with
  | nil => simp [eq_comm]
  | cons item items ih =>
    rw [List.mapM_cons, List.forall₂_cons_left_iff]
    simp only [Option.bind_eq_bind, Option.bind_eq_some_iff, Option.pure_def, Option.some.injEq,
      ih]
    constructor
    · rintro ⟨out, first, outs, rest, rfl⟩
      exact ⟨out, outs, first, rest, rfl⟩
    · rintro ⟨out, outs, first, rest, rfl⟩
      exact ⟨out, first, outs, rest, rfl⟩

theorem isSome_mapM {α β : Type} (read? : α → Option β) (items : List α) :
    (items.mapM read?).isSome ↔ ∀ item ∈ items, (read? item).isSome := by
  induction items with
  | nil => simp
  | cons item items ih =>
    rw [List.forall_mem_cons, ← ih, List.mapM_cons]
    cases read? item <;> cases items.mapM read? <;> simp

theorem mapM_congr {α β : Type} {read? read?' : α → Option β} {items : List α}
    (same : ∀ item ∈ items, read? item = read?' item) : items.mapM read? = items.mapM read?' := by
  induction items with
  | nil => rfl
  | cons item items ih =>
    rw [List.forall_mem_cons] at same
    rw [List.mapM_cons, List.mapM_cons, same.1, ih same.2]

theorem mapM_map_eq_some {α β γ : Type} (write : α → β) (read? : β → Option γ) (told : α → γ)
    (items : List α) (each : ∀ item ∈ items, read? (write item) = some (told item)) :
    (items.map write).mapM read? = some (items.map told) := by
  induction items with
  | nil => rfl
  | cons item items ih =>
    rw [List.forall_mem_cons] at each
    simp [each.1, ih each.2]

theorem filter_key {α : Type} (members : List (Text × α)) (once : (members.map Prod.fst).Nodup)
    (member : Text × α) (inside : member ∈ members) :
    members.filter (·.1 = member.1) = [member] := by
  induction members with
  | nil => cases inside
  | cons first rest ih =>
    rw [List.map_cons, List.nodup_cons, List.mem_map] at once
    rcases List.mem_cons.mp inside with rfl | later
    · have others : rest.filter (·.1 = member.1) = [] := by
        rw [List.filter_eq_nil_iff]
        intro other inRest same
        exact once.1 ⟨other, inRest, by simpa using same⟩
      rw [List.filter_cons_of_pos (by simp), others]
    · have apart : first.1 ≠ member.1 := fun same => once.1 ⟨member, later, same.symm⟩
      rw [List.filter_cons_of_neg (by simpa using apart), ih once.2 later]

namespace Json

theorem mapM_member? (fields : List (Text × Json)) (once : (fields.map Prod.fst).Nodup) :
    (fields.map Prod.fst).mapM (member? fields) = some (fields.map (some ·.2)) := by
  apply mapM_map_eq_some
  intro field inside
  simp only [member?, filter_key fields once field inside]

theorem members?_record (members : List (Text × Json))
    (once : (members.map Prod.fst).Nodup) :
    (record members).members? (members.map Prod.fst) = some (members.map (some ·.2)) := by
  simp only [record, members?, Option.bind_eq_bind]
  rw [mapM_map_eq_some _ _ id members (by simp), List.map_id, Option.bind_some,
    mapM_member? members once]

theorem member?_eq_some (fields : List (Text × Json)) (key : Text) (found : Option Json) :
    member? fields key = some found ↔
      fields.countP (·.1 = key) ≤ 1 ∧ ∀ value, (key, value) ∈ fields ↔ found = some value := by
  have inside (value : Json) :
      (key, value) ∈ fields ↔ (key, value) ∈ fields.filter (·.1 = key) := by
    simp [List.mem_filter]
  have named : ∀ field ∈ fields.filter (·.1 = key), field.1 = key := by
    simp [List.mem_filter]
  simp only [member?, List.countP_eq_length_filter, inside]
  generalize fields.filter (·.1 = key) = entries at named
  match entries with
  | [] => simp [Option.eq_none_iff_forall_ne_some, eq_comm]
  | [(name, value)] =>
    obtain rfl : name = key := named _ (List.mem_singleton_self _)
    simp only [List.length_singleton, Nat.le_refl, true_and, List.mem_singleton, Prod.mk.injEq,
      Option.some.injEq]
    constructor
    · rintro rfl other
      rw [Option.some.injEq, eq_comm]
    · intro known
      exact ((known value).mp rfl).symm
  | first :: second :: rest => simp

theorem exists_member? (fields : List (Text × Json)) (key : Text)
    (once : fields.countP (·.1 = key) ≤ 1) : ∃ found, member? fields key = some found := by
  rw [List.countP_eq_length_filter] at once
  unfold member?
  split
  next => exact ⟨none, rfl⟩
  next name value _ => exact ⟨some value, rfl⟩
  next nonempty several =>
    match entries : fields.filter (·.1 = key) with
    | [] => exact absurd entries nonempty
    | [entry] => exact absurd entries (several entry.1 entry.2)
    | first :: second :: rest => simp [entries] at once

inductive Fields (keys : List Text) : Json → List (Text × Json) → Prop
  | object {members : List (JsonString × Json)} {fields : List (Text × Json)}
    (named : List.Forall₂ (fun member field => member.1.text? = some field.1 ∧ member.2 = field.2)
      members fields) : Fields keys (.object members) fields
  | array {items : List Json} (complete : items.length = keys.length) :
    Fields keys (.array items) (keys.zip items)

def named? (member : JsonString × Json) : Option (Text × Json) :=
  member.1.text?.map fun key => (key, member.2)

theorem named?_eq_some (member : JsonString × Json) (field : Text × Json) :
    named? member = some field ↔ member.1.text? = some field.1 ∧ member.2 = field.2 := by
  obtain ⟨key, value⟩ := field
  simp [named?, Option.map_eq_some_iff]

theorem members?_object (keys : List Text) (members : List (JsonString × Json)) :
    (object members).members? keys =
      (members.mapM named?).bind fun fields => keys.mapM (member? fields) := rfl

theorem members?_eq_some (keys : List Text) (once : keys.Nodup) (json : Json)
    (values : List (Option Json)) : json.members? keys = some values ↔
      ∃ fields, json.Fields keys fields ∧ keys.mapM (member? fields) = some values := by
  have placed {items : List Json} (complete : items.length = keys.length) :
      keys.mapM (member? (keys.zip items)) = some (items.map some) := by
    have found := mapM_member? (keys.zip items)
    rw [List.map_fst_zip (Nat.le_of_eq complete.symm)] at found
    have values : ((keys.zip items).map Prod.snd).map some = items.map some := by
      rw [List.map_snd_zip (Nat.le_of_eq complete)]
    rw [found once, ← values, List.map_map]
    rfl
  constructor
  · intro known
    match json with
    | .scalar _ => cases known
    | .array items =>
      rw [members?] at known
      split at known
      next complete => exact ⟨_, .array complete, (placed complete).trans known⟩
      next => cases known
    | .object members =>
      rw [members?_object, Option.bind_eq_some_iff] at known
      obtain ⟨fields, named, found⟩ := known
      simp only [mapM_eq_some_iff, named?_eq_some] at named
      exact ⟨fields, .object named, found⟩
  · rintro ⟨fields, told, found⟩
    cases told with
    | object named =>
      rw [members?_object, Option.bind_eq_some_iff]
      refine ⟨fields, ?_, found⟩
      simpa only [mapM_eq_some_iff, named?_eq_some] using named
    | array complete =>
      rw [members?, if_pos complete, ← found, placed complete]

/-- A record without the fields that nobody asks for. A name that is no text is not passed over. -/
def known (keys : List Text) : Json → Json
  | object members => object (members.filter fun member => member.1.text?.all (· ∈ keys))
  | json => json

theorem mapM_named?_known (keys : List Text) (members : List (JsonString × Json)) :
    (members.filter fun member => member.1.text?.all (· ∈ keys)).mapM named? =
      (members.mapM named?).map (List.filter (·.1 ∈ keys)) := by
  induction members with
  | nil => rfl
  | cons member members ih =>
    cases name : member.1.text? with
    | none => simp [named?, name]
    | some key =>
      have read : named? member = some (key, member.2) := by simp [named?, name]
      have rest : (member :: members).mapM named? =
          (members.mapM named?).map ((key, member.2) :: ·) := by
        rw [List.mapM_cons, read]
        cases members.mapM named? <;> rfl
      by_cases asked : key ∈ keys
      · rw [List.filter_cons_of_pos (by simp [name, asked]), List.mapM_cons, ih, rest, read]
        cases members.mapM named? <;> simp [asked]
      · rw [List.filter_cons_of_neg (by simp [name, asked]), ih, rest]
        cases members.mapM named? <;> simp [asked]

theorem member?_filter (keys : List Text) (fields : List (Text × Json)) (key : Text)
    (asked : key ∈ keys) : member? (fields.filter (·.1 ∈ keys)) key = member? fields key := by
  have kept : (fields.filter (·.1 ∈ keys)).filter (·.1 = key) = fields.filter (·.1 = key) := by
    rw [List.filter_filter]
    apply List.filter_congr
    intro field _
    by_cases same : field.1 = key <;> simp [same, asked]
  rw [member?, member?, kept]

theorem members?_known (keys : List Text) (json : Json) :
    (json.known keys).members? keys = json.members? keys := by
  match json with
  | .scalar _ => rfl
  | .array _ => rfl
  | .object members =>
    rw [known, members?_object, members?_object, mapM_named?_known]
    cases members.mapM named? with
    | none => rfl
    | some fields => exact mapM_congr fun key asked => member?_filter keys fields key asked

end Json

end TaskQuery
