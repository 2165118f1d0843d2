import TaskQuery.Proofs.Calendar.Iso
import TaskQuery.Proofs.Json.Record
import TaskQuery.Proofs.Json.Rendering
import TaskQuery.Task.File

set_option autoImplicit false

namespace TaskQuery

namespace Task

theorem readDates?_array (dates : List Date) :
    readDates? (.array (dates.map fun date => .text date.iso)) = some dates := by
  have each := mapM_map_eq_some (fun date : Date => Json.text date.iso) readDate? id dates (by
    intro date _
    simp [readDate?, Json.text, Json.text?, Date.ofIso?_iso])
  rwa [List.map_id] at each

theorem readCount?_nat (count : Nat) (bounded : count < UInt64.size) :
    readCount? (some (.nat count)) = some (some count) := by
  have read : countOf? (Text.ofNat count) = some count := by
    simp [countOf?, Text.isNumber_ofNat, bounded]
  simp [readCount?, Json.nat, Json.literal?, read]

theorem members?_json (task : Task) :
    task.json.members? keys = some
      [some (.text task.description), some (.array (task.dates.map fun date => .text date.iso)),
        some (.nat task.count)] := by
  have once : keys.Nodup := by
    simp only [keys, Text.ofString_eq]
    decide
  exact Json.members?_record _ once

theorem ofJson?_json (task : Task) (bounded : task.count < UInt64.size) :
    ofJson? task.json = some task := by
  have description : (Json.text task.description).text? = some task.description := by
    simp [Json.text, Json.text?]
  simp [ofJson?, members?_json, description, readDates?_array, readCount?_nat _ bounded]

theorem proper_json (task : Task) : task.json.Proper := by
  apply Json.proper_record
  simp only [List.forall_mem_cons]
  refine ⟨Json.proper_text _, Json.proper_array _ ?_, Json.proper_nat _, by simp⟩
  intro item member
  obtain ⟨date, _, rfl⟩ := List.mem_map.mp member
  exact Json.proper_text date.iso

theorem readFile?_writeFile (tasks : List Task)
    (bounded : ∀ task ∈ tasks, task.count < UInt64.size) :
    readFile? (writeFile tasks) = some tasks := by
  have proper : (Json.array (tasks.map json)).Proper := by
    apply Json.proper_array
    intro item member
    obtain ⟨task, _, rfl⟩ := List.mem_map.mp member
    exact task.proper_json
  have each := mapM_map_eq_some json ofJson? id tasks fun task member =>
    task.ofJson?_json (bounded task member)
  rw [List.map_id] at each
  simp only [readFile?, writeFile, Json.read?_render _ proper, Option.bind_some, Json.items?, each]

def textOf? (bytes : ByteArray) : Option Text :=
  (String.fromUTF8? bytes).map Text.ofString

theorem textOf?_toUTF8 (cs : Text) : textOf? (String.ofList cs).toUTF8 = some cs := by
  have valid := (String.ofList cs).isValidUTF8
  have read : String.fromUTF8? (String.ofList cs).toUTF8 = some (String.ofList cs) := dif_pos valid
  rw [textOf?, read, Option.map_some, Text.ofString_eq, String.toList_ofList]

/-- Tasks that are written to a file are read back from its bytes as they were. -/
theorem load_writeFile (tasks : List Task) (bounded : ∀ task ∈ tasks, task.count < UInt64.size) :
    load (textOf? (String.ofList (writeFile tasks)).toUTF8) = .ok tasks := by
  simp only [textOf?_toUTF8, load, readFile?_writeFile tasks bounded]

end Task

def oddTasks : List Task :=
  [⟨"say \"é\"\u0001\n\\", [⟨-44, 3, 15, by decide⟩, ⟨9999, 12, 31, by decide⟩],
    18446744073709551615⟩, ⟨[], [], 3⟩]

theorem oddTasks_load_writeFile :
    (∀ task ∈ oddTasks, task.count < UInt64.size) ∧
      Task.load (Task.textOf? (String.ofList (Task.writeFile oddTasks)).toUTF8) =
        .ok oddTasks := by
  have bounded : ∀ task ∈ oddTasks, task.count < UInt64.size := by
    simp [oddTasks, UInt64.size]
  exact ⟨bounded, Task.load_writeFile oddTasks bounded⟩

end TaskQuery
