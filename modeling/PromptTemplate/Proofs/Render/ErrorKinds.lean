import PromptTemplate.Proofs.Render.Tree
/-!
# The kinds of error of a render

A tree can fail in two ways only: something that a tag or a loop asks for is not there or cannot be
used (`TemplateError.IsLookup`), or a pipe fails. `Engine.FailsWithin.renderAll` says so for any
property that all such failures have.
-/

namespace PromptTemplate

/-- Every error of the outcome has the property. -/
def FailsOnly {ε α : Type} (P : ε → Prop) (outcome : Except ε α) : Prop :=
  ∀ e, outcome = .error e → P e

section

variable {ε ε' α β : Type} {P : ε → Prop}

theorem failsOnly_ok (value : α) : FailsOnly P (.ok value) := by
  intro e h
  cases h

theorem failsOnly_error {e : ε} (h : P e) : FailsOnly P (.error e : Except ε α) := by
  intro e' h'
  cases h'
  exact h

theorem FailsOnly.bind {outcome : Except ε α} {next : α → Except ε β} (h : FailsOnly P outcome)
    (hnext : ∀ value, FailsOnly P (next value)) : FailsOnly P (outcome >>= next) := by
  cases outcome with
  | error e => exact failsOnly_error (h e rfl)
  | ok value => exact hnext value

theorem FailsOnly.mapError {outcome : Except ε α} {f : ε → ε'} {Q : ε' → Prop}
    (h : FailsOnly P outcome) (hf : ∀ e, P e → Q (f e)) : FailsOnly Q (outcome.mapError f) := by
  cases outcome with
  | error e => exact failsOnly_error (hf e (h e rfl))
  | ok value => exact failsOnly_ok value

theorem failsOnly_mapError {outcome : Except ε α} {f : ε → ε'} {Q : ε' → Prop}
    (hf : ∀ e, Q (f e)) : FailsOnly Q (outcome.mapError f) := by
  cases outcome with
  | error e => exact failsOnly_error (hf e)
  | ok value => exact failsOnly_ok value

theorem failsOnly_mapM {f : α → Except ε β} {l : List α} (h : ∀ x ∈ l, FailsOnly P (f x)) :
    FailsOnly P (l.mapM f) := by
  induction l with
  | nil => exact failsOnly_ok []
  | cons x l ih =>
    rw [List.forall_mem_cons] at h
    rw [List.mapM_cons]
    exact h.1.bind fun _ => (ih h.2).bind fun _ => failsOnly_ok _

end

namespace Logged

variable {α β : Type} {P : Failure → Prop}

theorem failsOnly_bind {run : Logged α} {next : α → Logged β} (h : FailsOnly P run.result)
    (hnext : ∀ value, FailsOnly P (next value).result) : FailsOnly P (run.bind next).result := by
  obtain ⟨log, result⟩ := run
  cases result with
  | error failure => exact failsOnly_error (h failure rfl)
  | ok value => exact hnext value

theorem failsOnly_append {first second : Logged Utf16} (h : FailsOnly P first.result)
    (h' : FailsOnly P second.result) : FailsOnly P (first ++ second).result :=
  failsOnly_bind h fun _ => failsOnly_bind h' fun _ => failsOnly_ok _

theorem failsOnly_concat {runs : List (Logged Utf16)} (h : ∀ run ∈ runs, FailsOnly P run.result) :
    FailsOnly P (concat runs).result := by
  induction runs with
  | nil => exact failsOnly_ok _
  | cons run runs ih =>
    rw [concat_cons]
    exact failsOnly_append (h run List.mem_cons_self)
      (ih fun other hother => h other (List.mem_cons_of_mem run hother))

end Logged

/-! ## Lookups -/

/-- The kind is about the two ends of a for-block. -/
def ErrorKind.isBlock : ErrorKind → Bool
  | .unterminatedForLoop | .unexpectedEndFor => true
  | _ => false

/-- The error is neither about the text of a template nor about its blocks: what is asked for is
not there or cannot be used. -/
def TemplateError.IsLookup (e : TemplateError) : Prop :=
  e.kind.isSyntax = false ∧ e.kind.isBlock = false

open TemplateError (IsLookup)

theorem failsOnly_parseDuration (input : List Char) : FailsOnly IsLookup (parseDuration input) := by
  unfold parseDuration
  split
  · exact failsOnly_error ⟨rfl, rfl⟩
  · split
    · exact failsOnly_error ⟨rfl, rfl⟩
    · split
      · exact failsOnly_error ⟨rfl, rfl⟩
      · split
        · exact failsOnly_error ⟨rfl, rfl⟩
        · exact failsOnly_ok _

theorem failsOnly_interpolate (value : String) (vars : LoopVars) :
    FailsOnly IsLookup (interpolate value vars) := by
  unfold interpolate
  split
  · exact failsOnly_ok _
  · split
    · exact failsOnly_ok _
    · exact failsOnly_error ⟨rfl, rfl⟩
    · exact failsOnly_ok _

theorem failsOnly_paramDuration (key : String) (params : Params) (vars : LoopVars) :
    FailsOnly IsLookup (paramDuration key params vars) := by
  unfold paramDuration
  split
  · exact failsOnly_ok _
  · exact (failsOnly_interpolate _ vars).bind fun text => failsOnly_parseDuration text.toList

theorem failsOnly_movedInstant (params : Params) (vars : LoopVars) (clock : Clock) :
    FailsOnly IsLookup (movedInstant params vars clock) := by
  have hoffset : FailsOnly IsLookup (dateOffset params vars) :=
    (failsOnly_paramDuration "minus" params vars).bind fun _ =>
      (failsOnly_paramDuration "plus" params vars).bind fun _ => failsOnly_ok _
  refine hoffset.bind fun offset => ?_
  dsimp only
  split
  · exact failsOnly_ok _
  · exact failsOnly_error ⟨rfl, rfl⟩

theorem failsOnly_resolveMemory (params : Params) (memories : List Memory) :
    FailsOnly IsLookup (resolveMemory params memories) := by
  have hoffset : FailsOnly IsLookup (memoryOffset params) := by
    unfold memoryOffset
    split
    · exact failsOnly_ok _
    · split
      · exact failsOnly_ok _
      · exact failsOnly_error ⟨rfl, rfl⟩
  refine hoffset.bind fun offset => ?_
  split
  · exact failsOnly_ok _
  · exact failsOnly_error ⟨rfl, rfl⟩

theorem failsOnly_resolveField (variableName field : String) (vars : LoopVars) :
    FailsOnly IsLookup (resolveField variableName field vars) := by
  unfold resolveField
  split
  · exact failsOnly_error ⟨rfl, rfl⟩
  · exact failsOnly_error ⟨rfl, rfl⟩
  · split
    · exact failsOnly_ok _
    · exact failsOnly_ok _
    · exact failsOnly_ok _
    · exact failsOnly_error ⟨rfl, rfl⟩

theorem failsOnly_resolveBuiltin (tag : Builtin) (params : Params) (context : Context)
    (clock : Clock) : FailsOnly IsLookup (resolveBuiltin tag params context clock) := by
  cases tag with
  | date =>
    exact (failsOnly_movedInstant params context.loopVars clock).bind fun _ => failsOnly_ok _
  | datetime =>
    exact (failsOnly_movedInstant params context.loopVars clock).bind fun _ => failsOnly_ok _
  | datetimeiso => exact failsOnly_ok _
  | result => exact failsOnly_ok _
  | message => exact failsOnly_ok _
  | sender => exact failsOnly_ok _
  | memory => exact (failsOnly_resolveMemory params context.memories).bind fun _ => failsOnly_ok _

/-- A tag fails only because of what it looks up. -/
theorem failsOnly_resolveTag (tag : Tag) (context : Context) (clock : Clock) :
    FailsOnly IsLookup (resolveTag tag context clock) := by
  unfold resolveTag
  split
  · exact failsOnly_resolveField _ _ context.loopVars
  · split
    · exact failsOnly_ok _
    · exact failsOnly_error ⟨rfl, rfl⟩
  · split
    · exact failsOnly_ok _
    · exact failsOnly_error ⟨rfl, rfl⟩
  · exact failsOnly_resolveBuiltin _ tag.params context clock
  · split
    · exact failsOnly_ok _
    · exact failsOnly_error ⟨rfl, rfl⟩

theorem LoopItems.failsOnly_ofHeader (header : ForHeader) (context : Context) :
    FailsOnly IsLookup (ofHeader header context) := by
  unfold ofHeader
  split
  · exact failsOnly_ok _
  · split
    · exact failsOnly_ok _
    · exact failsOnly_error ⟨rfl, rfl⟩

/-! ## Trees -/

/-- The property holds of every lookup error and of every failure of a pipe. -/
structure Engine.FailsWithin (engine : Engine) (P : Failure → Prop) : Prop where
  lookup : ∀ e, IsLookup e → P (.template e)
  pipe : ∀ name pipe, engine.pipes.get? name = some pipe → ∀ input, FailsOnly P (pipe input)

section

variable {P : Failure → Prop} {engine : Engine}

theorem Engine.FailsWithin.apply (h : engine.FailsWithin P) (name : String) (input : Utf16) :
    FailsOnly P (engine.pipes.apply name input) := by
  unfold Pipes.apply
  split
  · next pipe hpipe => exact h.pipe name pipe hpipe input
  · exact failsOnly_error (h.lookup _ ⟨rfl, rfl⟩)

theorem Engine.FailsWithin.renderTag (h : engine.FailsWithin P) (context : Context) (tag : Tag) :
    FailsOnly P (renderTag engine context tag).result := by
  refine Logged.failsOnly_bind ?_ fun text => ?_
  · exact (failsOnly_resolveTag tag context engine.clock).mapError h.lookup
  · split
    · exact failsOnly_ok _
    · exact h.apply _ text

mutual

theorem Engine.FailsWithin.render (h : engine.FailsWithin P) : ∀ (block : Block)
    (context : Context), FailsOnly P (block.render engine context).result
  | .literal text, context => by
    rw [Block.render]
    exact failsOnly_ok _
  | .tag tag, context => by
    rw [Block.render]
    exact h.renderTag context tag
  | .loop header body, context => by
    rw [Block.render]
    refine Logged.failsOnly_bind ?_ fun items => Logged.failsOnly_bind (failsOnly_ok _) fun _ => ?_
    · exact (LoopItems.failsOnly_ofHeader header context).mapError h.lookup
    · refine Logged.failsOnly_concat fun run hrun => ?_
      obtain ⟨item, -, rfl⟩ := List.mem_map.1 hrun
      exact h.renderAll body _

/-- A tree fails only because of what its tags and loops look up and by its pipes. -/
theorem Engine.FailsWithin.renderAll (h : engine.FailsWithin P) : ∀ (blocks : List Block)
    (context : Context), FailsOnly P (Block.renderAll engine context blocks).result
  | [], context => by
    rw [Block.renderAll]
    exact failsOnly_ok _
  | block :: blocks, context => by
    rw [Block.renderAll]
    exact Logged.failsOnly_append (h.render block context) (h.renderAll blocks context)

end

end

end PromptTemplate
