import PromptTemplate.Preview
import PromptTemplate.Proofs.JobData.Reading
import PromptTemplate.Proofs.Render.Visits
/-!
# The dates of memories

A memory in its own form has a date that was checked. The date of a stored run is the start of its
creation time, of which only the length is checked, so the memories of a file have dates throughout
exactly if the creation times of its stored runs start with one. The same condition decides whether
the `date` field of a loop variable shows a date wherever it is rendered
(`JobData.isDate_memories_iff`).
-/

namespace PromptTemplate

/-- The tag is the `date` field of a loop variable as it is, without a pipe. -/
structure Tag.IsDateOf (tag : Tag) (variableName : String) : Prop where
  name : Reference.ofName tag.name = .loopField variableName "date"
  pipe : tag.pipe = none

/-- What a `date` field shows is the date of the memory that its variable is. -/
theorem Tag.IsDateOf.result_renderTag_eq_ok_iff {tag : Tag} {variableName : String}
    (htag : tag.IsDateOf variableName) {engine : Engine} {context : Context} {text : Utf16} :
    (renderTag engine context tag).result = .ok text ↔
      ∃ memory, context.loopVars.get? variableName = some (.memory memory) ∧
        memory.date = text := by
  have htext : (renderTag engine context tag).result =
      (resolveField variableName "date" context.loopVars).mapError Failure.template := by
    unfold renderTag resolveTag
    rw [htag.pipe, htag.name]
    dsimp only
    cases resolveField variableName "date" context.loopVars <;> rfl
  rw [htext]
  unfold resolveField
  split
  · next hget => simp [hget, Except.mapError]
  · next hget => simp [hget, Except.mapError]
  · next memory hget => simp [hget, Except.mapError]

namespace JobData

/-- In every render with the job data that gives a text, every `date` field that is come to shows a
date, which stands in the text. -/
def ShowsDates (job : JobData) : Prop :=
  ∀ (template : String) (blocks : List Block) (engine : Engine) (dictionary : Dictionary)
    (secrets : Secrets) (whole : Utf16), tokenize template = .ok (Block.tokensAll blocks) →
      (render engine (RenderRequest.context dictionary secrets job) template).result = .ok whole →
        ∀ tag variableName inner, tag.IsDateOf variableName →
          Block.Visits (RenderRequest.context dictionary secrets job) blocks tag inner →
            ∃ text, (renderTag engine inner tag).result = .ok text ∧ text.IsDate ∧
              text.units <:+: whole.units

theorem showsDates_of_isDate {job : JobData} (h : ∀ memory ∈ job.memories, memory.date.IsDate) :
    job.ShowsDates := by
  intro template blocks engine dictionary secrets whole hread hwhole tag variableName inner htag
    hvisits
  rw [result_render_of_tokensAll engine _ hread] at hwhole
  obtain ⟨text, htext, hinfix⟩ := hvisits.exists_infix hwhole
  obtain ⟨memory, hget, rfl⟩ := htag.result_renderTag_eq_ok_iff.1 htext
  -- A render begins without loop variables, so the one that is shown was bound by a loop.
  have hempty : (RenderRequest.context dictionary secrets job).BindsMemories := by
    intro name memory hnone
    cases hnone
  obtain ⟨hbinds, hmemories⟩ := hvisits.bindsMemories hempty
  have hmem : memory ∈ job.memories := by
    have hinner := hbinds variableName memory hget
    rw [hmemories] at hinner
    exact hinner
  exact ⟨memory.date, htext, h memory hmem, hinfix⟩

/-! ## A template of dates -/

/-- A loop that shows the date of every memory. -/
def datesTemplate : String :=
  "\x7b% for m in memories %\x7d\x7b% m.date %\x7d\x7b% endfor %\x7d"

/-- The header of the loop. -/
def datesHeader : ForHeader := ⟨"m", .collection "memories", Table.empty⟩

/-- The tag in the loop. -/
def dateTag : Tag := ⟨"m.date", Table.empty, none⟩

theorem isDateOf_dateTag : dateTag.IsDateOf "m" := ⟨by decide +kernel, rfl⟩

theorem tokenize_datesTemplate :
    tokenize datesTemplate = .ok (Block.tokensAll [.loop datesHeader [.tag dateTag]]) := by
  decide +kernel

theorem result_renderTag_dateTag (engine : Engine) (context : Context) (memory : Memory) :
    (renderTag engine (context.withVars (context.loopVars.insert "m" (.memory memory)))
      dateTag).result = .ok memory.date :=
  isDateOf_dateTag.result_renderTag_eq_ok_iff.2 ⟨memory, Table.get?_insert_self _ _ _, rfl⟩

/-- The loop can be rendered whatever the dates are. -/
theorem exists_render_datesTemplate (engine : Engine) (context : Context) :
    ∃ whole, (render engine context datesTemplate).result = .ok whole := by
  have hitems : LoopItems.ofHeader datesHeader context =
      .ok (.values (context.memories.map .memory)) := rfl
  rw [result_render_of_tokensAll engine context tokenize_datesTemplate, Block.renderAll,
    Block.renderAll, Block.render, Logged.append_empty, result_renderLoop hitems]
  refine Logged.exists_concat_eq_ok fun run hrun => ?_
  obtain ⟨item, hitem, rfl⟩ := List.mem_map.1 hrun
  obtain ⟨memory, -, rfl⟩ := List.mem_map.1 hitem
  refine ⟨memory.date, ?_⟩
  rw [Block.renderAll, Block.renderAll, Block.render, Logged.append_empty]
  exact result_renderTag_dateTag engine context memory

theorem isDate_of_showsDates {job : JobData} (h : job.ShowsDates) :
    ∀ memory ∈ job.memories, memory.date.IsDate := by
  intro memory hmemory
  let engine : Engine := ⟨Pipes.default, ⟨0, Zone.utc⟩⟩
  let context := RenderRequest.context .empty Table.empty job
  obtain ⟨whole, hwhole⟩ := exists_render_datesTemplate engine context
  have hitems : LoopItems.ofHeader datesHeader context =
      .ok (.values (context.memories.map .memory)) := rfl
  have hitem : LoopValue.memory memory ∈ context.memories.map .memory :=
    List.mem_map_of_mem hmemory
  have hvisits : Block.Visits context [.loop datesHeader [.tag dateTag]] dateTag
      (context.withVars (context.loopVars.insert "m" (.memory memory))) :=
    .inside [] hitems hitem (.here _ dateTag [])
  obtain ⟨text, htext, hdate, -⟩ := h _ _ _ _ _ _ tokenize_datesTemplate hwhole _ _ _
    isDateOf_dateTag hvisits
  rw [result_renderTag_dateTag] at htext
  cases htext
  exact hdate

/-! ## The dates of a file -/

/-- The item counts as a stored run, and this is its creation time. -/
structure IsRunAt (item : Json) (created : Utf16) : Prop where
  notOwn : ∀ memory, ¬ Memory.IsOwnForm item memory
  isRun : ∃ run, Memory.IsRunForm item run created

theorem isDate_date_iff {item : Json} {memory : Memory}
    (h : (Memory.checkEither item).result = .ok memory) :
    (∀ created, IsRunAt item created → (created.take dateUnits).IsDate) ↔ memory.date.IsDate := by
  rcases Memory.checkEither_eq_ok_iff.1 h with hown | ⟨hnot, run, created, hrun, rfl⟩
  · exact ⟨fun _ => hown.isDate, fun _ created hrun => absurd hown (hrun.notOwn memory)⟩
  · -- A value has one creation time, so the date is a cut of the only one there is.
    constructor
    · intro hdates
      exact hdates created ⟨hnot, run, hrun⟩
    · rintro hdate other ⟨-, run', hrun'⟩
      have hsame := hrun.createdAt.symm.trans hrun'.createdAt
      cases hsame
      exact hdate

theorem forall_mem_iff_of_forall₂ {α β : Type} {R : α → β → Prop} {P : α → Prop} {Q : β → Prop}
    {xs : List α} {ys : List β} (h : List.Forall₂ R xs ys) (hPQ : ∀ x y, R x y → (P x ↔ Q y)) :
    (∀ x ∈ xs, P x) ↔ ∀ y ∈ ys, Q y := by
  induction h with
  | nil => simp
  | cons hxy _ ih => rw [List.forall_mem_cons, List.forall_mem_cons, hPQ _ _ hxy, ih]

/-- **The dates of memories.** Where a file is accepted as job data, all of its memories have dates
exactly if the creation time of each of its stored runs starts with one, and exactly if no `date`
field ever shows anything else. -/
theorem isDate_memories_iff {disk : Disk} {path : String} {data : Json} {job : JobData}
    (hread : disk.readJson path = .ok (some data)) (hload : load disk path = .ok job) :
    ((∀ memory ∈ job.memories, memory.date.IsDate) ↔
        ∀ item ∈ memoryItems data, ∀ created, IsRunAt item created →
          (created.take dateUnits).IsDate) ∧
      ((∀ memory ∈ job.memories, memory.date.IsDate) ↔ job.ShowsDates) := by
  refine ⟨?_, showsDates_of_isDate, isDate_of_showsDates⟩
  obtain ⟨data', hread', hcheck⟩ := exists_of_load hload
  cases hread.symm.trans hread'
  exact (forall_mem_iff_of_forall₂ (memories_of_check hcheck) fun _ _ => isDate_date_iff).symm

/-- A disk that holds one file with the text. -/
def textDisk (text : String) : Disk :=
  ⟨Table.ofList [(["c.json"], .file (Text.encode text) 0o644)], []⟩

/-- Job data of one stored run. -/
def runText (created : String) : String :=
  "\x7b\"memories\":[\x7b\"result\":\"r\",\"createdAt\":\"" ++ created ++ "\"\x7d]\x7d"

/-- What becomes of a run that was created at noon of the day before. -/
def noonJob : JobData := { memories := [⟨"yesterday ", "yesterday noon", "r"⟩] }

/-- A creation time that is long enough is taken for one that starts with a date, and its start is
shown as one. -/
theorem not_isDate_noonJob :
    (load (textDisk (runText "yesterday noon")) "c.json").toOption = some noonJob ∧
      (∃ memory ∈ noonJob.memories, ¬ memory.date.IsDate) ∧
      (render ⟨Pipes.default, ⟨0, Zone.utc⟩⟩ (RenderRequest.context .empty Table.empty noonJob)
        datesTemplate).result.toOption = some ("yesterday " : Utf16) := by
  refine ⟨by decide +kernel, ⟨_, List.mem_singleton.2 rfl, by decide +kernel⟩, by decide +kernel⟩

/-- The data of one stored run. -/
def runData : Json :=
  .object [("memories", .array [.object [("result", .string "r"),
    ("createdAt", .string "2025-01-01T07:00:00Z")]])]

/-- The memory of the run. -/
def runJob : JobData := { memories := [⟨"2025-01-01", "2025-01-01T07:00:00Z", "r"⟩] }

/-- The date of a run that was stored with a time stamp is shown as a date. -/
theorem isDate_memories_iff_runText :
    let disk := textDisk (runText "2025-01-01T07:00:00Z")
    disk.readJson "c.json" = .ok (some runData) ∧ load disk "c.json" = .ok runJob ∧
      runJob.ShowsDates := by
  intro disk
  have hread : disk.readJson "c.json" = .ok (some runData) :=
    eq_ok_of_toOption (by decide +kernel)
  have hload : load disk "c.json" = .ok runJob := eq_ok_of_toOption (by decide +kernel)
  exact ⟨hread, hload, (isDate_memories_iff hread hload).2.1 (by decide +kernel)⟩

end JobData

end PromptTemplate
