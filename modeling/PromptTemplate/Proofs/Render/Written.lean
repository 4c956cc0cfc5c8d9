import PromptTemplate.Proofs.Markup.Written
import PromptTemplate.Proofs.Render.Visits
/-!
# Rendering written templates

A template of one tag without a pipe gives the text of the tag or its error (`result_render_tag`),
and a loop around such a tag gives what the tag gives for each item, one text behind the other
(`result_render_loop`). Runs one behind the other come to what their results come to, and fail with
the first that fails (`Logged.result_concat_congr`, `Logged.result_concat_of_error`).
-/

namespace PromptTemplate

/-! ## Runs one behind the other -/

namespace Logged

theorem result_concat_congr {runs runs' : List (Logged Utf16)}
    (h : runs.map Logged.result = runs'.map Logged.result) :
    (concat runs).result = (concat runs').result := by
  induction runs generalizing runs' with
  | nil =>
    cases runs' with
    | nil => rfl
    | cons run' runs' => cases h
  | cons run runs ih =>
    cases runs' with
    | nil => cases h
    | cons run' runs' =>
      rw [List.map_cons, List.map_cons, List.cons.injEq] at h
      rw [concat_cons, concat_cons, result_append, result_append, h.1, ih h.2]

/-- The whole fails as the first run that fails. -/
theorem result_concat_of_error {before after : List (Logged Utf16)} {run : Logged Utf16}
    {failure : Failure} (hbefore : ∀ other ∈ before, ∃ text, other.result = .ok text)
    (hrun : run.result = .error failure) :
    (concat (before ++ run :: after)).result = .error failure := by
  induction before with
  | nil =>
    rw [List.nil_append, concat_cons, result_append, hrun]
    rfl
  | cons first before ih =>
    rw [List.forall_mem_cons] at hbefore
    obtain ⟨text, htext⟩ := hbefore.1
    rw [List.cons_append, concat_cons, result_append, htext, ih hbefore.2]
    rfl

end Logged

/-! ## One tag -/

section

variable {engine : Engine} {context : Context} {template : String} {tag : Tag} {body : List Char}
  (hbody : (Token.tag tag).IsBody body) (hpipe : tag.pipe = none)

include hpipe

theorem result_renderAll_tag (engine : Engine) (context : Context) :
    (Block.renderAll engine context [.tag tag]).result =
      (resolveTag tag context engine.clock).mapError .template := by
  rw [Block.renderAll, Block.render, Block.renderAll, Logged.append_empty, renderTag, hpipe]
  cases resolveTag tag context engine.clock <;> rfl

include hbody

theorem result_render_tag (htext : template.toList = tagsText [body]) :
    (render engine context template).result =
      (resolveTag tag context engine.clock).mapError .template := by
  have hread : tokenize template = .ok (Block.tokensAll [.tag tag]) :=
    tokenize_of_bodies (.cons hbody .nil) htext
  rw [result_render_of_tokensAll engine context hread, result_renderAll_tag hpipe]

theorem result_render_loop {header : ForHeader} {head : List Char} {items : LoopItems}
    (htext : template.toList = tagsText [head, body, " endfor ".toList])
    (hhead : (Token.forStart header).IsBody head)
    (hitems : LoopItems.ofHeader header context = .ok items) :
    (render engine context template).result =
      (Logged.concat (items.toList.map fun item => Logged.ofExcept ((resolveTag tag
        (context.withVars (context.loopVars.insert header.var item))
          engine.clock).mapError .template))).result := by
  have hread : tokenize template = .ok (Block.tokensAll [.loop header [.tag tag]]) :=
    tokenize_of_bodies (.cons hhead (.cons hbody (.cons Token.isBody_forEnd .nil))) htext
  rw [result_render_of_tokensAll engine context hread, Block.renderAll, Block.render,
    Block.renderAll, Logged.append_empty, result_renderLoop hitems]
  refine Logged.result_concat_congr ?_
  rw [List.map_map, List.map_map]
  exact List.map_congr_left fun item _ => result_renderAll_tag hpipe engine _

end

end PromptTemplate
