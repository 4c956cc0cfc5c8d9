import PromptTemplate.Render
/-!
# The steps of a render

A render goes over its tokens from the left. Each step is one run, and the whole is the steps one
after the other with their texts put together (`++` on runs). A for-block is the step of its
header followed by its items; since every item is bound over the one before it, each item sees the
variables of the block's start and its own binding (`renderItems_eq_concat`).
-/

namespace PromptTemplate

/-! ## Runs one after the other -/

/-- One run after another, with their texts put together. -/
instance : Append (Logged Utf16) :=
  ⟨fun first second => do
    let text ← first
    let others ← second
    pure (text ++ others)⟩

/-- Runs one after the other, with their texts put together. -/
def Logged.concat (runs : List (Logged Utf16)) : Logged Utf16 :=
  runs.foldr (· ++ ·) (pure ("" : Utf16))

namespace Logged

theorem append_def (first second : Logged Utf16) :
    first ++ second = first.bind fun text => second.bind fun others => ok (text ++ others) := rfl

theorem empty_append (run : Logged Utf16) : pure ("" : Utf16) ++ run = run := by
  rw [append_def, pure_eq_ok, ok_bind]
  exact bind_ok run

theorem append_empty (run : Logged Utf16) : run ++ pure ("" : Utf16) = run := by
  rw [append_def, pure_eq_ok]
  simp only [ok_bind, Utf16.ofString_empty, Utf16.append_empty]
  exact bind_ok run

theorem append_assoc (first second third : Logged Utf16) :
    first ++ second ++ third = first ++ (second ++ third) := by
  simp only [append_def, bind_assoc, ok_bind, Utf16.append_assoc]

/-- What a run is given first comes before everything that is put behind the run. -/
theorem bind_append {α : Type} (run : Logged α) (next : α → Logged Utf16) (second : Logged Utf16) :
    run.bind next ++ second = run.bind fun value => next value ++ second := by
  rw [append_def, bind_assoc]
  rfl

theorem result_bind {α β : Type} (run : Logged α) (next : α → Logged β) :
    (run >>= next).result = run.result >>= fun value => (next value).result := by
  obtain ⟨log, result⟩ := run
  cases result <;> rfl

theorem result_append (first second : Logged Utf16) :
    (first ++ second).result = (do
      let text ← first.result
      let others ← second.result
      .ok (text ++ others)) := by
  obtain ⟨log, result⟩ := first
  obtain ⟨log', result'⟩ := second
  cases result with
  | error failure => rfl
  | ok text => cases result' <;> rfl

@[simp] theorem concat_cons (run : Logged Utf16) (runs : List (Logged Utf16)) :
    concat (run :: runs) = run ++ concat runs := rfl

end Logged

/-! ## Items -/

theorem LoopItems.toList_of_next? {items rest : LoopItems} {item : LoopValue}
    (h : items.next? = some (item, rest)) : items.toList = item :: rest.toList := by
  cases items with
  | range n count =>
    cases count with
    | zero => simp [next?] at h
    | succ count =>
      simp only [next?, Option.some.injEq, Prod.mk.injEq] at h
      rw [← h.1, ← h.2]
      rfl
  | values vs =>
    cases vs with
    | nil => simp [next?] at h
    | cons v vs =>
      simp only [next?, Option.some.injEq, Prod.mk.injEq] at h
      rw [← h.1, ← h.2]
      rfl

theorem LoopItems.toList_of_next?_eq_none {items : LoopItems} (h : items.next? = none) :
    items.toList = [] := by
  cases items with
  | range n count =>
    cases count with
    | zero => rfl
    | succ count => simp [next?] at h
  | values vs =>
    cases vs with
    | nil => rfl
    | cons v vs => simp [next?] at h

/-- Each item is rendered with the variables of the loop's start and its own binding: what the
items before it left behind is bound over. -/
theorem renderItems_eq_concat (var : String) (body : LoopVars → Logged Utf16) (vars : LoopVars)
    (items : LoopItems) :
    renderItems var body vars items =
      Logged.concat (items.toList.map fun item => body (vars.insert var item)) := by
  fun_induction renderItems var body vars items with
  | case1 vars items h =>
    rw [LoopItems.toList_of_next?_eq_none h]
    rfl
  | case2 vars items item rest h vars' ih =>
    rw [LoopItems.toList_of_next? h, List.map_cons, Logged.concat_cons, ih]
    simp only [vars', Table.insert_insert]
    rfl

/-! ## Tokens -/

/-- A for-block: its items are worked out, the loop is logged, and the body is rendered for each of
them. -/
def renderLoop (context : Context) (header : ForHeader)
    (body : Context → Logged Utf16) : Logged Utf16 := do
  let items ← Logged.ofExcept ((LoopItems.ofHeader header context).mapError .template)
  Logged.entry (loopEntry header items)
  Logged.concat (items.toList.map fun item =>
    body (context.withVars (context.loopVars.insert header.var item)))

section

variable (engine : Engine) (context : Context)

theorem renderTokens_nil : renderTokens engine context [] = pure ("" : Utf16) := by
  rw [renderTokens]

theorem renderTokens_literal (text : String) (rest : List Token) :
    renderTokens engine context (.literal text :: rest) =
      pure (text : Utf16) ++ renderTokens engine context rest := by
  rw [renderTokens, Logged.append_def, Logged.pure_eq_ok, Logged.ok_bind]
  rfl

theorem renderTokens_tag (tag : Tag) (rest : List Token) :
    renderTokens engine context (.tag tag :: rest) =
      renderTag engine context tag ++ renderTokens engine context rest := by
  rw [renderTokens]
  rfl

theorem renderTokens_forEnd (rest : List Token) :
    renderTokens engine context (.forEnd :: rest) = Logged.fail (.template .strayEndFor) := by
  rw [renderTokens]

theorem renderTokens_unclosed {rest : List Token} (header : ForHeader)
    (h : cutBody? rest = none) :
    renderTokens engine context (.forStart header :: rest) =
      Logged.fail (.template .unterminatedFor) := by
  rw [renderTokens]
  split
  · next e he =>
    rw [collectBody_of_unclosed h] at he
    cases he
    rfl
  · next found he =>
    rw [collectBody_of_unclosed h] at he
    cases he

theorem renderTokens_forStart {rest body after : List Token} (header : ForHeader)
    (h : cutBody? rest = some (body, after)) :
    renderTokens engine context (.forStart header :: rest) =
      renderLoop context header (fun inner => renderTokens engine inner body) ++
        renderTokens engine context after := by
  have hbody := collectBody_of_cutBody? h
  rw [renderTokens]
  split
  · next e he =>
    rw [hbody] at he
    cases he
  · next found he =>
    rw [hbody] at he
    cases he
    simp only [List.drop_succ_cons, drop_of_cutBody? h, renderItems_eq_concat]
    rw [renderLoop]
    simp only [Logged.bind_eq, Logged.bind_append]
    rfl

theorem result_render (template : String) :
    (render engine context template).result = (do
      let tokens ← (tokenize template).mapError Failure.template
      (renderTokens engine context tokens).result) := by
  unfold render
  cases tokenize template <;> rfl

end

end PromptTemplate
