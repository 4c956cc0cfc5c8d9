import PromptTemplate.Block.Tree
import PromptTemplate.Proofs.Render.Walk
/-!
# Blanked secrets

A secret is blanked by taking its key and its header away. A render reads of a secret nothing but
its address, so with every secret blanked it is the same run, with the same entries and the same
text or failure (`renderTokens_blanked`).
-/

namespace PromptTemplate

/-! ## Blanks -/

/-- The secret without its key and its header. -/
def Secret.blanked (s : Secret) : Secret := { s with key := "", header := "" }

/-- The secrets without their keys and headers. -/
def Secrets.blanked (s : Secrets) : Secrets := s.map Secret.blanked

/-- The same context with its secrets blanked. -/
def Context.blanked (c : Context) : Context := { c with secrets := c.secrets.blanked }

theorem Secrets.names_blanked (s : Secrets) : s.blanked.names = s.names := by
  unfold names blanked
  rw [Table.keys_map]

theorem Secrets.size_blanked (s : Secrets) : s.blanked.size = s.size := Table.size_map _ s

theorem Context.withVars_blanked (c : Context) (vars : LoopVars) :
    c.blanked.withVars vars = (c.withVars vars).blanked := rfl

/-! ## Renders -/

/-- A `proxy:` tag shows the address, which a blanked secret still has. -/
theorem resolveTag_blanked (tag : Tag) (context : Context) (clock : Clock) :
    resolveTag tag context.blanked clock = resolveTag tag context clock := by
  unfold resolveTag
  cases Reference.ofName tag.name with
  | proxy secret =>
    have hget : context.blanked.secrets.get? secret =
        (context.secrets.get? secret).map Secret.blanked := Table.get?_map _ _ _
    dsimp only
    rw [hget]
    cases context.secrets.get? (secret : Utf16) with
    | none => rfl
    | some s => rfl
  | loopField variableName field => rfl
  | custom key => rfl
  | builtin builtin => cases builtin <;> rfl
  | loopVar variableName => rfl

variable (engine : Engine)

theorem renderTag_blanked (context : Context) (tag : Tag) :
    renderTag engine context.blanked tag = renderTag engine context tag := by
  unfold renderTag
  rw [resolveTag_blanked]

/-- A loop runs over the same items, and its body is rendered with the same bindings. -/
theorem renderLoop_blanked (context : Context) (header : ForHeader)
    {body : Context → Logged Utf16} (h : ∀ inner : Context, body inner.blanked = body inner) :
    renderLoop context.blanked header body = renderLoop context header body := by
  have hitems : LoopItems.ofHeader header context.blanked = LoopItems.ofHeader header context := rfl
  unfold renderLoop
  rw [hitems]
  simp only [Context.withVars_blanked, h]
  rfl

/-- The induction goes by the tree of the list, so that a body is rendered with any context. -/
theorem renderTokens_blanked (context : Context) (tokens : List Token) :
    renderTokens engine context.blanked tokens = renderTokens engine context tokens := by
  induction tokens using Block.ofTokens?.induct generalizing context with
  | case1 => rw [renderTokens_nil, renderTokens_nil]
  | case2 text rest ih => rw [renderTokens_literal, renderTokens_literal, ih]
  | case3 tag rest ih => rw [renderTokens_tag, renderTokens_tag, renderTag_blanked, ih]
  | case4 rest => rw [renderTokens_forEnd, renderTokens_forEnd]
  | case5 header rest h =>
    rw [renderTokens_unclosed engine _ header h, renderTokens_unclosed engine _ header h]
  | case6 header rest body after h ihbody ihafter =>
    rw [renderTokens_forStart engine _ header h, renderTokens_forStart engine _ header h,
      renderLoop_blanked context header ihbody, ihafter]

end PromptTemplate
