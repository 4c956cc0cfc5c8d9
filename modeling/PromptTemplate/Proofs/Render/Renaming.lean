import PromptTemplate.Proofs.Render.Mentions
import PromptTemplate.Proofs.Tag.Renaming
/-!
# Renaming the variable of a for-block

A loop variable can be renamed in its block: `y` for `x` in the header and for every free `x` of the
body, where the blocks that bind `x` again stay as they are (`renameFree`). If `y` is new to the
body, the renamed block gives the same text or fails with the same kind of error
(`renderTokens_renameFree`).

The two runs go on with variables that differ in the two names only (`RenamedVars`). Inside a block
that binds `x` again they differ in `y` only, which nothing there mentions, so that the two runs are
one. What the surroundings have bound to either name does not matter.
-/

namespace PromptTemplate

/-! ## Renamed tokens -/

/-- The names in a token that are or may be those of loop variables. -/
def Token.names : Token → List String
  | literal _ => []
  | tag t => t.names
  | forStart header => [header.var]
  | forEnd => []

/-- The token of a scope with `y` for an `x` that the scope does not bind. -/
def Token.renameIn (bound : List String) (x y : String) : Token → Token
  | tag t => .tag (if x ∈ bound then t else t.rename x y)
  | token => token

/-- The tokens in a scope with `y` for each `x` that neither the scope nor a for-block among the
tokens binds. -/
def renameIn (bound : List String) (x y : String) (tokens : List Token) : List Token :=
  (withScopes bound tokens).map fun e => e.2.renameIn e.1 x y

/-- The tokens with `y` for every free `x`. -/
def renameFree (x y : String) (tokens : List Token) : List Token := renameIn [] x y tokens

section

variable {x y : String} {bound : List String}

theorem Closes.renameIn {depth : Nat} {tokens : List Token} (h : Closes depth tokens)
    (bound : List String) : Closes depth (renameIn bound x y tokens) := by
  induction h using Closes.induction generalizing bound with
  | nil => exact balanced_nil
  | literal depth text rest h ih => exact closes_literal_iff.2 (ih _)
  | tag depth tag rest h ih => exact closes_tag_iff.2 (ih _)
  | forStart depth header rest h ih => exact closes_forStart_iff.2 (ih _)
  | forEnd depth rest h ih => exact closes_forEnd_iff.2 (ih _)

theorem renameIn_loop {body : List Token} (h : Balanced body) (header : ForHeader)
    (after : List Token) :
    renameIn bound x y (.forStart header :: (body ++ .forEnd :: after)) =
      .forStart header ::
        (renameIn (header.var :: bound) x y body ++ .forEnd :: renameIn bound x y after) := by
  rw [renameIn, withScopes_loop h, List.map_cons, List.map_append, List.map_cons]
  rfl

/-- Where `x` is bound nothing is renamed. -/
theorem renameIn_of_mem {tokens : List Token} (h : Balanced tokens) (hx : x ∈ bound) :
    renameIn bound x y tokens = tokens := by
  calc renameIn bound x y tokens = (withScopes bound tokens).map Prod.snd := by
        refine List.map_congr_left fun e he => ?_
        have hmem : x ∈ e.1 := h.subset_of_mem_withScopes e he hx
        cases e.2 with
        | tag t => rw [Token.renameIn, if_pos hmem]
        | literal text => rfl
        | forStart header => rfl
        | forEnd => rfl
    _ = tokens := map_snd_withScopes bound tokens

end

/-! ## Fresh names -/

theorem mem_offsetVars_of_mentions {builtin : Builtin} {params : Params} {name : String}
    (h : .loopVar name ∈ builtin.mentions params) :
    (builtin = .date ∨ builtin = .datetime) ∧ name ∈ offsetVars params := by
  -- The two kinds of tag that look at their durations mention the same.
  have hdated (hmem : .loopVar name ∈ Builtin.mentions params .date) :
      name ∈ offsetVars params := by
    rcases List.mem_cons.1 hmem with hclock | hmem
    · cases hclock
    · obtain ⟨other, hother, heq⟩ := List.mem_map.1 hmem
      cases heq
      exact hother
  cases builtin with
  | date => exact ⟨.inl rfl, hdated h⟩
  | datetime => exact ⟨.inr rfl, hdated h⟩
  | datetimeiso => cases List.mem_singleton.1 h
  | result => cases List.mem_singleton.1 h
  | message => cases List.mem_singleton.1 h
  | sender => cases List.mem_singleton.1 h
  | memory => cases List.mem_singleton.1 h

theorem Tag.mem_names_of_mentions {tag : Tag} {name : String} (h : .loopVar name ∈ tag.mentions) :
    name ∈ tag.names := by
  rcases List.mem_append.1 h with h | h
  · cases href : Reference.ofName tag.name with
    | loopField variableName field =>
      rw [href] at h
      cases List.mem_singleton.1 h
      rw [Tag.names, Reference.before?_of_loopField href]
      exact List.mem_cons_of_mem _ List.mem_cons_self
    | proxy secret =>
      rw [href] at h
      cases List.mem_singleton.1 h
    | custom key =>
      rw [href] at h
      cases List.mem_singleton.1 h
    | builtin builtin =>
      rw [href] at h
      obtain ⟨hbuiltin, hname⟩ := mem_offsetVars_of_mentions h
      have hdated : tag.IsDated := by
        rw [Tag.IsDated, ← Reference.name_of_builtin href]
        rcases hbuiltin with rfl | rfl <;> decide
      rw [Tag.names, if_pos hdated]
      exact List.mem_cons_of_mem _ (List.mem_append_right _ hname)
    | loopVar variableName =>
      rw [href] at h
      cases List.mem_singleton.1 h
      rw [Tag.names, Reference.name_of_loopVar href]
      exact List.mem_cons_self
  · obtain ⟨pipe, -, heq⟩ := Option.map_eq_some_iff.1 (Option.mem_toList.1 h)
    cases heq

theorem Token.mem_names_of_mentions {token : Token} {name : String}
    (h : .loopVar name ∈ token.mentions) : name ∈ token.names := by
  cases token with
  | literal text => exact absurd h List.not_mem_nil
  | tag tag => exact Tag.mem_names_of_mentions h
  | forStart header =>
    rw [Token.mentions] at h
    split at h
    · cases List.mem_singleton.1 h
    · exact absurd h List.not_mem_nil
  | forEnd => exact absurd h List.not_mem_nil

section

variable {y : String} (engine : Engine) (context : Context)

/-- A variable that the tokens do not name makes no difference. -/
theorem renderTokens_eq_of_fresh {tokens : List Token} (hfresh : y ∉ tokens.flatMap Token.names)
    {vars vars' : LoopVars} (h : ∀ name ≠ y, vars.get? name = vars'.get? name) :
    renderTokens engine (context.withVars vars) tokens =
      renderTokens engine (context.withVars vars') tokens := by
  have hagree : AgreeIn [] tokens ⟨engine, context.withVars vars⟩
      ⟨engine, context.withVars vars'⟩ := by
    refine ⟨fun m hm => ?_, fun _ hname => absurd hname List.not_mem_nil⟩
    cases m with
    | loopVar name =>
      obtain ⟨e, he, hmention, -⟩ := mem_mentionsIn_iff.1 hm
      refine h name fun heq => hfresh (List.mem_flatMap.2 ⟨e.2, ?_, ?_⟩)
      · rw [← map_snd_withScopes [] tokens]
        exact List.mem_map_of_mem he
      · exact heq ▸ Token.mem_names_of_mentions hmention
    | dictionaryKey key => rfl
    | secret name => rfl
    | result => rfl
    | message => rfl
    | sender => rfl
    | memories => rfl
    | clock => rfl
    | pipe name => rfl
  exact hagree.renderTokens_eq

end

/-! ## Runs alike -/

/-- What of a failure does not depend on the names in a template: of a template error the kind. -/
def Failure.gist : Failure → ErrorKind ⊕ Failure
  | template e => .inl e.kind
  | failure => .inr failure

namespace Logged

variable {α β : Type}

/-- The runs log the same and give the same, or fail in the same way. -/
structure Alike (run run' : Logged α) : Prop where
  log : run.log = run'.log
  result : run.result.mapError Failure.gist = run'.result.mapError Failure.gist

theorem Alike.refl (run : Logged α) : Alike run run := ⟨rfl, rfl⟩

theorem Alike.bind {run run' : Logged α} {next next' : α → Logged β} (h : Alike run run')
    (hnext : ∀ value, Alike (next value) (next' value)) :
    Alike (run >>= next) (run' >>= next') := by
  obtain ⟨log, result⟩ := run
  obtain ⟨log', result'⟩ := run'
  obtain ⟨hlog, hresult⟩ := h
  refine ⟨?_, ?_⟩
  · cases result with
    | error failure =>
      cases result' with
      | error failure' => exact hlog
      | ok value' => cases hresult
    | ok value =>
      cases result' with
      | error failure' => cases hresult
      | ok value' =>
        cases hresult
        exact congrArg₂ (· ++ ·) hlog (hnext value).log
  · rw [result_bind, result_bind]
    exact mapError_bind_congr hresult fun value => (hnext value).result

theorem Alike.append {first first' second second' : Logged Utf16} (h : Alike first first')
    (h' : Alike second second') : Alike (first ++ second) (first' ++ second') :=
  h.bind fun _ => h'.bind fun _ => Alike.refl _

theorem Alike.concat {run run' : α → Logged Utf16} (h : ∀ item, Alike (run item) (run' item))
    (items : List α) :
    Alike (Logged.concat (items.map run)) (Logged.concat (items.map run')) := by
  induction items with
  | nil => exact Alike.refl _
  | cons item items ih => exact (h item).append ih

theorem alike_of_kind {outcome outcome' : Except TemplateError α}
    (h : outcome.mapError TemplateError.kind = outcome'.mapError TemplateError.kind) :
    Alike (ofExcept (outcome.mapError .template)) (ofExcept (outcome'.mapError .template)) := by
  refine ⟨rfl, ?_⟩
  cases outcome with
  | error e =>
    cases outcome' with
    | error e' => exact congrArg (Except.error ∘ Sum.inl) (Except.error.inj h)
    | ok value' => cases h
  | ok value =>
    cases outcome' with
    | error e' => cases h
    | ok value' =>
      cases h
      rfl

end Logged

open Logged (Alike)

/-! ## Renamed runs -/

theorem renderLoop_of_items {context : Context} {header : ForHeader} {items : LoopItems}
    (h : LoopItems.ofHeader header context = .ok items) (body : Context → Logged Utf16) :
    renderLoop context header body = (do
      Logged.entry (loopEntry header items)
      Logged.concat (items.toList.map fun item =>
        body (context.withVars (context.loopVars.insert header.var item)))) := by
  unfold renderLoop
  rw [h]
  rfl

section

variable {x y : String} (engine : Engine) (context : Context)

theorem renderLoop_alike {header : ForHeader} {vars vars' : LoopVars}
    {body body' : Context → Logged Utf16}
    (h : ∀ item, Alike (body (context.withVars (vars.insert header.var item)))
      (body' (context.withVars (vars'.insert header.var item)))) :
    Alike (renderLoop (context.withVars vars) header body)
      (renderLoop (context.withVars vars') header body') := by
  have hitems : LoopItems.ofHeader header (context.withVars vars) =
      LoopItems.ofHeader header (context.withVars vars') := rfl
  unfold renderLoop
  rw [hitems]
  exact (Alike.refl _).bind fun items => (Alike.refl _).bind fun _ => Alike.concat h items.toList

variable (hx : IsVarName x) (hy : IsVarName y) {vars vars' : LoopVars}

include hx hy

theorem RenamedVars.renderTag_alike (h : RenamedVars x y vars vars') {tag : Tag}
    (hfresh : y ∉ tag.names) :
    Alike (renderTag engine (context.withVars vars) tag)
      (renderTag engine (context.withVars vars') (tag.rename x y)) := by
  have htext := h.resolveTag_rename hx hy hfresh context engine.clock
  exact (Logged.alike_of_kind htext.symm).bind fun text => Alike.refl _

/-- The induction goes by the tree of the list. Only the blocks that bind `x` again leave the two
environments behind. -/
theorem RenamedVars.renderTokens_alike (h : RenamedVars x y vars vars') {bound : List String}
    (hbound : x ∉ bound) {tokens : List Token} (hbalanced : Balanced tokens)
    (hfresh : y ∉ tokens.flatMap Token.names) :
    Alike (renderTokens engine (context.withVars vars) tokens)
      (renderTokens engine (context.withVars vars') (renameIn bound x y tokens)) := by
  induction hbalanced using Balanced.induction generalizing bound vars vars' with
  | nil =>
    show Alike _ (renderTokens engine _ [])
    rw [renderTokens_nil, renderTokens_nil]
    exact Alike.refl _
  | literal text rest hrest ih =>
    rw [renderTokens_literal]
    show Alike _ (renderTokens engine _ (.literal text :: renameIn bound x y rest))
    rw [renderTokens_literal]
    exact (Alike.refl _).append (ih h hbound hfresh)
  | tag tag rest hrest ih =>
    rw [List.flatMap_cons, List.mem_append, not_or] at hfresh
    have htag := h.renderTag_alike engine context hx hy hfresh.1
    rw [renderTokens_tag]
    show Alike _ (renderTokens engine _
      (.tag (if x ∈ bound then tag else tag.rename x y) :: renameIn bound x y rest))
    rw [renderTokens_tag, if_neg hbound]
    exact htag.append (ih h hbound hfresh.2)
  | loop header body after hbody hafter ihbody ihafter =>
    rw [List.flatMap_cons, List.flatMap_append, List.flatMap_cons] at hfresh
    simp only [List.mem_append, not_or] at hfresh
    obtain ⟨hvar, hfreshBody, -, hfreshAfter⟩ := hfresh
    rw [renameIn_loop hbody, renderTokens_forStart _ _ header (cutBody?_append hbody _),
      renderTokens_forStart _ _ header (cutBody?_append (Closes.renameIn hbody _) _)]
    refine Alike.append (renderLoop_alike context fun item => ?_) (ihafter h hbound hfreshAfter)
    by_cases hheader : header.var = x
    · -- The block binds `x` again and is left as it is.
      rw [renameIn_of_mem hbody (hheader ▸ List.mem_cons_self), hheader]
      have heq := renderTokens_eq_of_fresh engine context hfreshBody
        fun name hname => h.get?_insert_eq item hname
      exact heq ▸ Alike.refl _
    · have hne : header.var ≠ y := fun heq => hvar (heq ▸ List.mem_cons_self)
      refine ihbody (h.insert hheader hne item) ?_ hfreshBody
      exact List.not_mem_cons_of_ne_of_not_mem (Ne.symm hheader) hbound

end

/-- **Renaming.** The variable of a for-block can be renamed to one that is new to the body: the
block gives the same text or fails in the same way, and logs the same behind its own entry. -/
theorem renderTokens_renameFree {header : ForHeader} {y : String} {body : List Token}
    (hbody : Balanced body) (hx : IsVarName header.var) (hy : IsVarName y)
    (hfresh : y ∉ body.flatMap Token.names) (engine : Engine) (context : Context) :
    let run := renderTokens engine context (.forStart header :: (body ++ [.forEnd]))
    let renamed := renderTokens engine context
      (.forStart { header with var := y } :: (renameFree header.var y body ++ [.forEnd]))
    renamed.result.mapError Failure.gist = run.result.mapError Failure.gist ∧
      renamed.log.tail = run.log.tail := by
  intro run renamed
  have hcut := cutBody?_append hbody []
  have hcut' := cutBody?_append (Closes.renameIn hbody [] (x := header.var) (y := y)) []
  have hrun : run = renderLoop context header fun inner => renderTokens engine inner body := by
    show renderTokens _ _ _ = _
    rw [renderTokens_forStart _ _ header hcut, renderTokens_nil, Logged.append_empty]
  have hrenamed : renamed = renderLoop context { header with var := y } fun inner =>
      renderTokens engine inner (renameFree header.var y body) := by
    show renderTokens _ _ _ = _
    rw [renameFree, renderTokens_forStart _ _ _ hcut', renderTokens_nil, Logged.append_empty]
  rw [hrun, hrenamed]
  cases hitems : LoopItems.ofHeader header context with
  | error e =>
    have hitems' : LoopItems.ofHeader { header with var := y } context = .error e := hitems
    unfold renderLoop
    rw [hitems, hitems']
    exact ⟨rfl, rfl⟩
  | ok items =>
    have hitems' : LoopItems.ofHeader { header with var := y } context = .ok items := hitems
    rw [renderLoop_of_items hitems, renderLoop_of_items hitems']
    have hitem (item : LoopValue) :=
      (RenamedVars.insert_renamed header.var y context.loopVars item).renderTokens_alike engine
        context hx hy List.not_mem_nil hbody hfresh
    have hall := Alike.concat hitem items.toList
    exact ⟨hall.result.symm, hall.log.symm⟩

/-- The body of a block over `name` that moves a date by it, with a block in it that binds `x`
again. -/
def shadowingBody (name : String) : List Token :=
  [.tag ⟨name, Table.empty, none⟩,
    .tag ⟨"date", Table.ofList [("minus", name ++ "\"d\"")], none⟩,
    .forStart ⟨"x", .collection "memories", Table.empty⟩, .tag ⟨"x.result", Table.empty, none⟩,
    .forEnd]

/-- The renamed block gives the same text, also where `y` is bound around it. -/
theorem renderTokens_shadowingBody :
    let engine : Engine := ⟨Pipes.default, ⟨0, Zone.utc⟩⟩
    let context : Context :=
      { memories := [⟨"2026-01-02", "2026-01-02 03:04", "r"⟩]
        loopVars := Table.ofList [("y", .index 7)] }
    let run := renderTokens engine context
      (.forStart ⟨"x", .range 1 2, Table.empty⟩ :: (shadowingBody "x" ++ [.forEnd]))
    let renamed := renderTokens engine context
      (.forStart ⟨"y", .range 1 2, Table.empty⟩ :: (shadowingBody "y" ++ [.forEnd]))
    Balanced (shadowingBody "x") ∧ IsVarName "x" ∧ IsVarName "y" ∧
      "y" ∉ (shadowingBody "x").flatMap Token.names ∧
      renameFree "x" "y" (shadowingBody "x") = shadowingBody "y" ∧
      renamed.result.mapError Failure.gist = run.result.mapError Failure.gist ∧
      renamed.log.tail = run.log.tail ∧
      run.result.toOption = some ("11969-12-31r21969-12-30r" : Utf16) := by
  intro engine context run renamed
  have hbody : Balanced (shadowingBody "x") := by decide
  have hx : IsVarName "x" :=
    ⟨by decide, by decide, by decide, by decide, fun tag => by cases tag <;> decide⟩
  have hy : IsVarName "y" :=
    ⟨by decide, by decide, by decide, by decide, fun tag => by cases tag <;> decide⟩
  have hfresh : "y" ∉ (shadowingBody "x").flatMap Token.names := by decide +kernel
  have hrename : renameFree "x" "y" (shadowingBody "x") = shadowingBody "y" := by decide +kernel
  have h := @renderTokens_renameFree ⟨"x", .range 1 2, Table.empty⟩ "y" _ hbody hx hy hfresh
    engine context
  dsimp only at h
  rw [hrename] at h
  exact ⟨hbody, hx, hy, hfresh, hrename, h.1, h.2, by decide +kernel⟩

end PromptTemplate
