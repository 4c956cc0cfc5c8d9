import PromptTemplate.Proofs.Outcome
import PromptTemplate.Proofs.Render.Tree
/-!
# The tags that a render comes to

A tag may be rendered many times, each time with the loop variables that its blocks bind just then
(`Block.Visits`). A render that gives a text has rendered every tag that it came to, and what came
of the tag stands in the text (`Block.Visits.exists_infix`). Whatever it came through, a loop
variable that is a memory is one of those that the render began with (`Block.Visits.bindsMemories`).
-/

namespace PromptTemplate

/-- Rendering the blocks in a context comes to the tag, with the loop variables of the inner
context. -/
inductive Block.Visits : Context → List Block → Tag → Context → Prop
  | here (context : Context) (tag : Tag) (blocks : List Block) :
    Visits context (.tag tag :: blocks) tag context
  | behind {context inner : Context} {blocks : List Block} {tag : Tag} (block : Block)
    (h : Visits context blocks tag inner) : Visits context (block :: blocks) tag inner
  | inside {context inner : Context} {header : ForHeader} {body : List Block} {tag : Tag}
    {items : LoopItems} {item : LoopValue} (blocks : List Block)
    (hitems : LoopItems.ofHeader header context = .ok items) (hitem : item ∈ items.toList)
    (h : Visits (context.withVars (context.loopVars.insert header.var item)) body tag inner) :
    Visits context (.loop header body :: blocks) tag inner

/-! ## Texts -/

namespace Logged

/-- The result is a text that stands in the other. -/
def GivesWithin (run : Logged Utf16) (whole : Utf16) : Prop :=
  ∃ text, run.result = .ok text ∧ text.units <:+: whole.units

theorem exists_of_append_eq_ok {first second : Logged Utf16} {whole : Utf16}
    (h : (first ++ second).result = .ok whole) :
    ∃ text others, first.result = .ok text ∧ second.result = .ok others ∧
      text ++ others = whole := by
  rw [result_append] at h
  obtain ⟨text, htext, hrest⟩ := exists_of_bind_eq_ok h
  obtain ⟨others, hothers, heq⟩ := exists_of_bind_eq_ok hrest
  exact ⟨text, others, htext, hothers, Except.ok.inj heq⟩

theorem givesWithin_left {first second : Logged Utf16} {whole : Utf16}
    (h : (first ++ second).result = .ok whole) : first.GivesWithin whole := by
  obtain ⟨text, others, htext, -, rfl⟩ := exists_of_append_eq_ok h
  exact ⟨text, htext, (List.prefix_append _ _).isInfix⟩

theorem givesWithin_right {first second : Logged Utf16} {whole : Utf16}
    (h : (first ++ second).result = .ok whole) : second.GivesWithin whole := by
  obtain ⟨text, others, -, hothers, rfl⟩ := exists_of_append_eq_ok h
  exact ⟨others, hothers, (List.suffix_append _ _).isInfix⟩

theorem givesWithin_concat {runs : List (Logged Utf16)} {run : Logged Utf16} {whole : Utf16}
    (h : (concat runs).result = .ok whole) (hrun : run ∈ runs) : run.GivesWithin whole := by
  induction runs generalizing whole with
  | nil => cases hrun
  | cons first runs ih =>
    rw [concat_cons] at h
    rcases List.mem_cons.1 hrun with rfl | hrun
    · exact givesWithin_left h
    · obtain ⟨others, hothers, hinfix⟩ := givesWithin_right h
      obtain ⟨text, htext, hin⟩ := ih hothers hrun
      exact ⟨text, htext, hin.trans hinfix⟩

theorem exists_concat_eq_ok {runs : List (Logged Utf16)}
    (h : ∀ run ∈ runs, ∃ text, run.result = .ok text) :
    ∃ whole, (concat runs).result = .ok whole := by
  induction runs with
  | nil => exact ⟨_, rfl⟩
  | cons run runs ih =>
    obtain ⟨text, htext⟩ := h run List.mem_cons_self
    obtain ⟨others, hothers⟩ := ih fun other hother => h other (List.mem_cons_of_mem run hother)
    rw [concat_cons, result_append, htext, hothers]
    exact ⟨_, rfl⟩

end Logged

theorem result_renderLoop {context : Context} {header : ForHeader} {items : LoopItems}
    (hitems : LoopItems.ofHeader header context = .ok items) (body : Context → Logged Utf16) :
    (renderLoop context header body).result = (Logged.concat (items.toList.map fun item =>
      body (context.withVars (context.loopVars.insert header.var item)))).result := by
  unfold renderLoop
  rw [hitems]
  rfl

/-- Every tag that a render comes to has its text in what is rendered. -/
theorem Block.Visits.exists_infix {context inner : Context} {blocks : List Block} {tag : Tag}
    (h : Visits context blocks tag inner) {engine : Engine} {whole : Utf16}
    (hwhole : (renderAll engine context blocks).result = .ok whole) :
    (renderTag engine inner tag).GivesWithin whole := by
  -- On the way to the tag, the text of each block that is entered stands in that of the one around.
  induction h generalizing whole with
  | here context tag blocks =>
    rw [renderAll, render] at hwhole
    exact Logged.givesWithin_left hwhole
  | behind block h ih =>
    rw [renderAll] at hwhole
    obtain ⟨others, hothers, hinfix⟩ := Logged.givesWithin_right hwhole
    obtain ⟨text, htext, hin⟩ := ih hothers
    exact ⟨text, htext, hin.trans hinfix⟩
  | inside blocks hitems hitem h ih =>
    rw [renderAll, render] at hwhole
    obtain ⟨loopText, hloop, hinfix⟩ := Logged.givesWithin_left hwhole
    rw [result_renderLoop hitems] at hloop
    obtain ⟨bodyText, hbody, hin⟩ :=
      Logged.givesWithin_concat hloop (List.mem_map_of_mem hitem)
    obtain ⟨text, htext, hinner⟩ := ih hbody
    exact ⟨text, htext, hinner.trans (hin.trans hinfix)⟩

/-! ## Loop variables -/

/-- Every loop variable that is a memory is among the memories of the context. -/
def Context.BindsMemories (context : Context) : Prop :=
  ∀ name memory, context.loopVars.get? name = some (.memory memory) → memory ∈ context.memories

theorem LoopItems.memory_not_mem_rangeList (memory : Memory) (n : Int) (count : Nat) :
    .memory memory ∉ rangeList n count := by
  induction count generalizing n with
  | zero => exact List.not_mem_nil
  | succ count ih =>
    rw [rangeList, List.mem_cons, not_or]
    exact ⟨LoopValue.noConfusion, ih (n + 1)⟩

theorem LoopItems.mem_memories_of_ofHeader {header : ForHeader} {context : Context}
    {items : LoopItems} {memory : Memory} (hitems : ofHeader header context = .ok items)
    (h : .memory memory ∈ items.toList) : memory ∈ context.memories := by
  unfold ofHeader at hitems
  split at hitems
  · cases hitems
    exact absurd h (memory_not_mem_rangeList memory _ _)
  · split at hitems
    · cases hitems
      have hall : .memory memory ∈ context.memories.map LoopValue.memory := by
        rw [toList] at h
        split at h
        · exact List.mem_of_mem_take h
        · exact h
      obtain ⟨found, hfound, heq⟩ := List.mem_map.1 hall
      cases heq
      exact hfound
    · cases hitems

theorem Context.BindsMemories.withVars {context : Context} (h : context.BindsMemories)
    {header : ForHeader} {items : LoopItems} {item : LoopValue}
    (hitems : LoopItems.ofHeader header context = .ok items) (hitem : item ∈ items.toList) :
    (context.withVars (context.loopVars.insert header.var item)).BindsMemories := by
  intro name memory hget
  show memory ∈ context.memories
  rw [Context.withVars] at hget
  dsimp only at hget
  rw [Table.get?_insert] at hget
  split at hget
  · cases hget
    exact LoopItems.mem_memories_of_ofHeader hitems hitem
  · exact h name memory hget

theorem Block.Visits.bindsMemories {context inner : Context} {blocks : List Block} {tag : Tag}
    (h : Visits context blocks tag inner) (hcontext : context.BindsMemories) :
    inner.BindsMemories ∧ inner.memories = context.memories := by
  induction h with
  | here context tag blocks => exact ⟨hcontext, rfl⟩
  | behind block h ih => exact ih hcontext
  | inside blocks hitems hitem h ih => exact ih (hcontext.withVars hitems hitem)

end PromptTemplate
