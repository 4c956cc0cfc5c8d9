import PromptTemplate.Proofs.Block.Balance
import PromptTemplate.Proofs.Render.Walk
/-!
# Rendering a tree

The meaning of a balanced token list is that of its tree. A sequence of blocks is rendered block by
block from the left; a loop works out its items, logs one entry and renders its body for each item
in the environment of the loop with nothing but the loop variable bound anew, so an environment is
never changed, only passed down. `renderTokens_eq_renderAll`: rendering the tokens one after the
other, with one set of loop variables that each item of a loop overwrites, is the same run, with
the same entries and the same text or first failure.
-/

namespace PromptTemplate

namespace Block

mutual

/-- The text of a block. -/
def render (engine : Engine) (context : Context) : Block → Logged Utf16
  | literal text => pure (text : Utf16)
  | tag t => renderTag engine context t
  | loop header body => renderLoop context header fun inner => renderAll engine inner body

/-- The text of a sequence of blocks. -/
def renderAll (engine : Engine) (context : Context) : List Block → Logged Utf16
  | [] => pure ("" : Utf16)
  | block :: blocks => render engine context block ++ renderAll engine context blocks

end

end Block

section

variable (engine : Engine)

mutual

theorem renderTokens_tokens_append : ∀ (block : Block) (context : Context) (rest : List Token),
    renderTokens engine context (block.tokens ++ rest) =
      block.render engine context ++ renderTokens engine context rest
  | .literal text, context, rest => by
    rw [Block.tokens, Block.render, List.singleton_append, renderTokens_literal]
  | .tag tag, context, rest => by
    rw [Block.tokens, Block.render, List.singleton_append, renderTokens_tag]
  | .loop header body, context, rest => by
    have hcut := cutBody?_append (Block.balanced_tokensAll body) rest
    have hbody : ∀ inner, renderTokens engine inner (Block.tokensAll body) =
        Block.renderAll engine inner body := by
      intro inner
      have h := renderTokens_tokensAll_append body inner []
      rwa [List.append_nil, renderTokens_nil, Logged.append_empty] at h
    rw [Block.tokens, Block.render, List.cons_append, List.append_assoc, List.singleton_append,
      renderTokens_forStart engine context header hcut]
    simp only [hbody]

/-- Behind the tokens of a tree the render goes on as if it began there. -/
theorem renderTokens_tokensAll_append : ∀ (blocks : List Block) (context : Context)
    (rest : List Token),
    renderTokens engine context (Block.tokensAll blocks ++ rest) =
      Block.renderAll engine context blocks ++ renderTokens engine context rest
  | [], context, rest => by
    rw [Block.tokensAll, Block.renderAll, List.nil_append, Logged.empty_append]
  | block :: blocks, context, rest => by
    rw [Block.tokensAll, Block.renderAll, List.append_assoc, Logged.append_assoc,
      renderTokens_tokens_append block, renderTokens_tokensAll_append blocks]

end

theorem renderTokens_tokensAll (context : Context) (blocks : List Block) :
    renderTokens engine context (Block.tokensAll blocks) =
      Block.renderAll engine context blocks := by
  have h := renderTokens_tokensAll_append engine blocks context []
  rwa [List.append_nil, renderTokens_nil, Logged.append_empty] at h

/-- The text of a template is that of its tree. -/
theorem result_render_of_tokensAll (context : Context) {template : String}
    {blocks : List Block} (hread : tokenize template = .ok (Block.tokensAll blocks)) :
    (render engine context template).result = (Block.renderAll engine context blocks).result := by
  rw [result_render, hread, ← renderTokens_tokensAll]
  rfl

/-- A balanced list is rendered before what stands behind it, and neither sees the other. -/
theorem Balanced.renderTokens_append {tokens : List Token} (h : Balanced tokens)
    (context : Context) (rest : List Token) :
    renderTokens engine context (tokens ++ rest) =
      renderTokens engine context tokens ++ renderTokens engine context rest := by
  obtain ⟨blocks, rfl⟩ := h.exists_blocks
  rw [renderTokens_tokensAll_append, renderTokens_tokensAll]

end

/-- **Refinement.** A balanced list is read into its tree, and rendering the list is rendering the
tree. -/
theorem renderTokens_eq_renderAll {tokens : List Token} (h : Balanced tokens) :
    ∃ blocks, Block.ofTokens? tokens = some blocks ∧ Block.tokensAll blocks = tokens ∧
      ∀ (engine : Engine) (context : Context),
        renderTokens engine context tokens = Block.renderAll engine context blocks := by
  obtain ⟨blocks, rfl⟩ := h.exists_blocks
  refine ⟨blocks, Block.ofTokens?_tokensAll blocks, rfl, ?_⟩
  intro engine context
  exact renderTokens_tokensAll engine context blocks

/-- A loop within a loop over the same variable, and the variable behind the inner loop. -/
def shadowedLoops : List Token :=
  [.forStart ⟨"i", .range 1 2, Table.empty⟩, .forStart ⟨"i", .range 7 8, Table.empty⟩,
    .tag ⟨"i", Table.empty, none⟩, .forEnd, .tag ⟨"i", Table.empty, none⟩, .forEnd]

theorem renderTokens_shadowedLoops : Balanced shadowedLoops ∧
    ∃ blocks, Block.ofTokens? shadowedLoops = some blocks ∧
      Block.tokensAll blocks = shadowedLoops ∧
        ∀ (engine : Engine) (context : Context),
          renderTokens engine context shadowedLoops = Block.renderAll engine context blocks :=
  ⟨by decide, renderTokens_eq_renderAll (by decide)⟩

end PromptTemplate
