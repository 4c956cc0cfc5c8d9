import PromptTemplate.Proofs.Disk.File
import PromptTemplate.Proofs.JobData.Memories
/-!
# Reading job data

Job data is an object of its four members and no others, each of which may be missing: three texts
and a list of memories in either form. Exactly such files are accepted. What is read has the texts
of the file, and its memories are those of the items, one by one (`JobData.exists_load_iff`).
-/

namespace PromptTemplate

/-- The item is a memory in its own form, or a stored run that is not. -/
inductive Memory.IsOf (item : Json) : Memory → Prop
  | own {memory : Memory} (h : IsOwnForm item memory) : IsOf item memory
  | run {run created : Utf16} (hown : ∀ memory, ¬ IsOwnForm item memory)
    (h : IsRunForm item run created) : IsOf item (ofRun run created)

theorem Memory.checkEither_eq_ok_iff_isOf {item : Json} {memory : Memory} :
    (checkEither item).result = .ok memory ↔ IsOf item memory := by
  rw [checkEither_eq_ok_iff]
  constructor
  · rintro (h | ⟨hown, run, created, h, rfl⟩)
    · exact .own h
    · exact .run hown h
  · rintro (h | ⟨hown, h⟩)
    · exact .inl h
    · exact .inr ⟨hown, _, _, h, rfl⟩

theorem Memory.exists_isOf_iff {item : Json} :
    (∃ memory, IsOf item memory) ↔
      (∃ memory, IsOwnForm item memory) ∨ ∃ run created, IsRunForm item run created := by
  constructor
  · rintro ⟨_, h | ⟨-, h⟩⟩
    · exact .inl ⟨_, h⟩
    · exact .inr ⟨_, _, h⟩
  · intro h
    by_cases hown : ∃ memory, IsOwnForm item memory
    · obtain ⟨memory, hown⟩ := hown
      exact ⟨memory, .own hown⟩
    · obtain ⟨run, created, hrun⟩ := h.resolve_left hown
      exact ⟨_, .run (not_exists.1 hown) hrun⟩

namespace JobData

/-- The items that job data lists as its memories. -/
def memoryItems (data : Json) : List Json :=
  match data with
  | .object members =>
    match findEntry ("memories" : Utf16) members with
    | some (.array items) => items
    | _ => []
  | _ => []

/-- The names of the members that are texts. -/
def textNames : List String := ["result", "message", "sender"]

/-- What the members of job data have to be. -/
structure IsForm (members : List (Utf16 × Json)) : Prop where
  known : ∀ m ∈ members, m.1 ∈ memberNames.map Utf16.ofString
  texts : ∀ name ∈ textNames, IsTextOrAbsent name members
  array : ∀ value, findEntry ("memories" : Utf16) members = some value →
    ∃ items, value = .array items
  items : ∀ item ∈ memoryItems (.object members),
    (∃ memory, Memory.IsOwnForm item memory) ∨ ∃ run created, Memory.IsRunForm item run created

/-- What is read from the value of a file. -/
structure IsOf (data : Json) (job : JobData) : Prop where
  result : data.textAt? "result" = job.result
  message : data.textAt? "message" = job.message
  sender : data.textAt? "sender" = job.sender
  memories : List.Forall₂ Memory.IsOf (memoryItems data) job.memories

end JobData

/-- The value is job data. -/
def Json.IsJobData (data : Json) : Prop :=
  ∃ members, data = .object members ∧ JobData.IsForm members

namespace JobData

/-! ## Members -/

theorem optionalText_eq_ok_iff {name : String} {members : List (Utf16 × Json)}
    {text : Option Utf16} :
    (optionalMember checkText name members).result = .ok text ↔
      IsTextOrAbsent name members ∧ (Json.object members).textAt? name = text := by
  rw [optionalMember_eq_ok_iff]
  cases hfind : findEntry (name : Utf16) members with
  | none => simp [IsTextOrAbsent, Json.textAt?, hfind, eq_comm]
  | some value =>
    cases value with
    | string found => simp [IsTextOrAbsent, Json.textAt?, hfind, checkText_eq_ok_iff]
    | _ => simp [IsTextOrAbsent, hfind, checkText_eq_ok_iff]

theorem memories_eq_ok_iff {members : List (Utf16 × Json)} {memories : List Memory} :
    (defaultMember (checkArray Memory.checkEither) [] "memories" members).result = .ok memories ↔
      (∀ value, findEntry ("memories" : Utf16) members = some value →
        ∃ items, value = .array items) ∧
      List.Forall₂ Memory.IsOf (memoryItems (.object members)) memories := by
  rw [defaultMember_eq_ok_iff]
  unfold memoryItems
  dsimp only
  cases findEntry ("memories" : Utf16) members with
  | none => simp [List.forall₂_nil_left_iff]
  | some value =>
    cases value <;> simp [checkArray_eq_ok_iff, Memory.checkEither_eq_ok_iff_isOf]

/-- What the check accepts and reads, member by member. -/
theorem check_eq_ok_iff_members {data : Json} {job : JobData} :
    (check data).result = .ok job ↔
      ∃ members, data = .object members ∧ (∀ m ∈ members, m.1 ∈ memberNames.map Utf16.ofString) ∧
        (∀ name ∈ textNames, IsTextOrAbsent name members) ∧
        (∀ value, findEntry ("memories" : Utf16) members = some value →
          ∃ items, value = .array items) ∧ IsOf data job := by
  unfold check
  simp only [checkObject_eq_ok_iff, refuseUnknown_eq_ok_iff, Checked.result_seq_eq_ok_iff,
    Checked.result_map_eq_ok_iff, optionalText_eq_ok_iff, memories_eq_ok_iff]
  constructor
  · rintro ⟨members, rfl, ⟨_, memories, ⟨_, _, ⟨_, _, ⟨_, hresult, rfl⟩, hmessage, rfl⟩, hsender,
      rfl⟩, hmemories, rfl⟩, hknown⟩
    have htexts : ∀ name ∈ textNames, IsTextOrAbsent name members :=
      List.forall_mem_cons.2 ⟨hresult.1, List.forall_mem_cons.2
        ⟨hmessage.1, List.forall_mem_singleton.2 hsender.1⟩⟩
    exact ⟨members, rfl, hknown, htexts, hmemories.1,
      ⟨hresult.2, hmessage.2, hsender.2, hmemories.2⟩⟩
  · rintro ⟨members, rfl, hknown, htexts, harray, h⟩
    have hresult := htexts "result" (by decide)
    have hmessage := htexts "message" (by decide)
    have hsender := htexts "sender" (by decide)
    exact ⟨members, rfl, ⟨_, _, ⟨_, _, ⟨_, _, ⟨_, ⟨hresult, h.result⟩, rfl⟩, ⟨hmessage, h.message⟩,
      rfl⟩, ⟨hsender, h.sender⟩, rfl⟩, ⟨harray, h.memories⟩, rfl⟩, hknown⟩

theorem settled_check (data : Json) : (check data).Settled := by
  refine settled_checkObject (fun members => settled_refuseUnknown ?_) data
  have htext (name : String) := settled_optionalMember settled_checkText name members
  have hmemories := settled_defaultMember (settled_checkArray Memory.settled_checkEither) []
    "memories" members
  exact ((((htext "result").map _).seq (htext "message")).seq (htext "sender")).seq hmemories

/-! ## Acceptance -/

theorem exists_forall₂_iff {α β : Type} {R : α → β → Prop} {xs : List α} :
    (∃ ys, List.Forall₂ R xs ys) ↔ ∀ x ∈ xs, ∃ y, R x y := by
  induction xs with
  | nil => exact ⟨fun _ => nofun, fun _ => ⟨[], .nil⟩⟩
  | cons x xs ih =>
    rw [List.forall_mem_cons, ← ih]
    constructor
    · rintro ⟨_, _ | ⟨hx, hxs⟩⟩
      exact ⟨⟨_, hx⟩, _, hxs⟩
    · rintro ⟨⟨y, hx⟩, ys, hxs⟩
      exact ⟨y :: ys, .cons hx hxs⟩

/-- Job data is accepted, and nothing else. -/
theorem exists_check_iff {data : Json} :
    (∃ job, (check data).result = .ok job) ↔ data.IsJobData := by
  simp only [check_eq_ok_iff_members]
  constructor
  · rintro ⟨job, members, rfl, hknown, htexts, harray, h⟩
    exact ⟨members, rfl, hknown, htexts, harray, fun item hitem =>
      Memory.exists_isOf_iff.1 (exists_forall₂_iff.1 ⟨_, h.memories⟩ item hitem)⟩
  · rintro ⟨members, rfl, h⟩
    obtain ⟨memories, hmemories⟩ := exists_forall₂_iff.2 fun item hitem =>
      Memory.exists_isOf_iff.2 (h.items item hitem)
    exact ⟨⟨_, _, _, memories⟩, members, rfl, h.known, h.texts, h.array, rfl, rfl, rfl, hmemories⟩

/-- The memories of accepted job data are those of its items, one by one. -/
theorem memories_of_check {data : Json} {job : JobData} (h : (check data).result = .ok job) :
    List.Forall₂ (fun item memory => (Memory.checkEither item).result = .ok memory)
      (memoryItems data) job.memories := by
  obtain ⟨members, rfl, -, -, -, hjob⟩ := check_eq_ok_iff_members.1 h
  exact hjob.memories.imp fun _ _ => Memory.checkEither_eq_ok_iff_isOf.2

/-! ## Files -/

section

variable {disk : Disk} {path : String} {job : JobData}

theorem exists_of_load (h : load disk path = .ok job) :
    ∃ data, disk.readJson path = .ok (some data) ∧ (check data).result = .ok job := by
  obtain ⟨found, hread, hnext⟩ := exists_of_bind_eq_ok h
  cases found with
  | none => cases hnext
  | some data => exact ⟨data, hread, validate_eq_ok_iff.1 (eq_ok_of_mapError hnext)⟩

variable {data : Json} (hread : disk.readJson path = .ok (some data))

include hread

theorem load_eq_validate : load disk path = (validate check path [] data).mapError .config := by
  unfold load
  rw [hread]
  rfl

theorem load_eq_ok_iff : load disk path = .ok job ↔ (check data).result = .ok job := by
  rw [load_eq_validate hread, ← validate_eq_ok_iff]
  cases validate check path [] data <;> simp [Except.mapError]

end

/-- **Reading job data.** A file is accepted exactly if its value is job data. Then what is read is
what the file says, and otherwise there is nothing but the faults of the file, of which there is at
least one. -/
theorem exists_load_iff {disk : Disk} {path : String} {data : Json}
    (hread : disk.readJson path = .ok (some data)) :
    ((∃ job, load disk path = .ok job) ↔ data.IsJobData) ∧
      (∀ job, load disk path = .ok job → IsOf data job) ∧
      (¬ data.IsJobData → ∃ issue rest,
        load disk path = .error (.config { path, issues := issue :: rest })) := by
  refine ⟨?_, fun job hjob => ?_, fun hno => ?_⟩
  · simp only [load_eq_ok_iff hread, exists_check_iff]
  · obtain ⟨members, rfl, -, -, -, h⟩ := check_eq_ok_iff_members.1 ((load_eq_ok_iff hread).1 hjob)
    exact h
  · rw [← exists_check_iff, not_exists] at hno
    obtain ⟨issue, rest, hissues⟩ := (settled_check data).exists_issue hno
    refine ⟨issue.under [], rest.map (Issue.under []), ?_⟩
    rw [load_eq_validate hread, validate_eq_error hno, hissues]
    rfl

/-- Job data with a memory that is a stored run as well, and a run with a date that is none. -/
def mixedText : String :=
  "\x7b\"sender\":\"s\",\"memories\":[" ++
    "\x7b\"date\":\"2025-01-01\",\"datetime\":\"d\",\"result\":\"r\"," ++
      "\"createdAt\":\"2024-12-31T\"\x7d," ++
    "\x7b\"date\":\"today\",\"result\":\"q\",\"createdAt\":\"2025-01-02T\"\x7d]\x7d"

/-- The value of the text. -/
def mixedData : Json :=
  .object [("sender", .string "s"), ("memories", .array [
    .object [("date", .string "2025-01-01"), ("datetime", .string "d"), ("result", .string "r"),
      ("createdAt", .string "2024-12-31T")],
    .object [("date", .string "today"), ("result", .string "q"),
      ("createdAt", .string "2025-01-02T")]])]

/-- What is read from it. -/
def mixedJob : JobData where
  sender := some "s"
  memories := [⟨"2025-01-01", "d", "r"⟩, ⟨"2025-01-02", "2025-01-02T", "q"⟩]

theorem isOf_mixedJob :
    let disk := Disk.ofText mixedText
    disk.readJson "d.json" = .ok (some mixedData) ∧ mixedData.IsJobData ∧
      load disk "d.json" = .ok mixedJob ∧ IsOf mixedData mixedJob := by
  intro disk
  have hread : disk.readJson "d.json" = .ok (some mixedData) :=
    Disk.readJson_ofText (by decide +kernel)
  have hcheck : (check mixedData).result = .ok mixedJob :=
    Checked.result_eq_ok_iff.2 (by decide +kernel)
  have hload := (load_eq_ok_iff hread).2 hcheck
  obtain ⟨haccepted, hjob, -⟩ := exists_load_iff hread
  exact ⟨hread, haccepted.1 ⟨_, hload⟩, hload, hjob _ hload⟩

end JobData

end PromptTemplate
