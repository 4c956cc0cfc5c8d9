import PromptTemplate.Proofs.Markup.Seam
import PromptTemplate.Proofs.Render.Tree
/-!
# Rendering templates side by side

A literal text may be cut in two without a trace in what is rendered, and a balanced list is
rendered before what stands behind it. So a template that is read as a balanced list can be put
before any other, and the text of the whole is the text of both (`result_render_append`). Only the
order of failures shows that it is one template: the second is read before the first is rendered.
-/

namespace PromptTemplate

open Layout (literalTokens)

/-! ## Balance -/

theorem Balanced.of_append_literalTokens {tokens : List Token} {text : List Char}
    (h : Balanced (tokens ++ literalTokens text)) : Balanced tokens := by
  have hend : (literalTokens text).count .forEnd = 0 := by
    unfold literalTokens
    split <;> simp
  have hstart : (literalTokens text).countP Token.isForStart = 0 := by
    unfold literalTokens
    split <;> simp [Token.isForStart]
  refine ⟨fun p hp => h.ends_le p (hp.trans (List.prefix_append _ _)), ?_⟩
  have hall := h.ends_eq
  rwa [List.count_append, List.countP_append, hend, hstart] at hall

/-! ## Runs -/

section

variable (engine : Engine) (context : Context)

theorem renderTokens_literalTokens_append (text : List Char) (rest : List Token) :
    renderTokens engine context (literalTokens text ++ rest) =
      pure (String.ofList text : Utf16) ++ renderTokens engine context rest := by
  unfold literalTokens
  split
  · next hempty =>
    subst hempty
    exact (Logged.empty_append _).symm
  · rw [List.singleton_append, renderTokens_literal]

/-- Whether a literal text is one token or two makes no difference. -/
theorem renderTokens_literalTokens_cut (last head : List Char) (rest : List Token) :
    renderTokens engine context (literalTokens (last ++ head) ++ rest) =
      renderTokens engine context (literalTokens last ++ (literalTokens head ++ rest)) := by
  have hpure : (pure (String.ofList (last ++ head) : Utf16) : Logged Utf16) =
      pure (String.ofList last : Utf16) ++ pure (String.ofList head : Utf16) := by
    rw [Logged.append_def, String.ofList_append, Utf16.ofString_append]
    simp only [Logged.pure_eq_ok, Logged.ok_bind]
  rw [renderTokens_literalTokens_append, renderTokens_literalTokens_append,
    renderTokens_literalTokens_append, hpure, Logged.append_assoc]

theorem Joined.renderTokens_eq {first second whole : List Token} (h : Joined first second whole)
    (hfirst : Balanced first) :
    renderTokens engine context whole =
      renderTokens engine context first ++ renderTokens engine context second := by
  cases h with
  | mk before after last head =>
    have hbefore := hfirst.of_append_literalTokens
    calc renderTokens engine context (before ++ (literalTokens (last ++ head) ++ after))
        = renderTokens engine context before ++
            renderTokens engine context (literalTokens (last ++ head) ++ after) :=
          hbefore.renderTokens_append engine context _
      _ = renderTokens engine context before ++
            renderTokens engine context (literalTokens last ++ (literalTokens head ++ after)) := by
          rw [renderTokens_literalTokens_cut]
      _ = renderTokens engine context
            (before ++ literalTokens last ++ (literalTokens head ++ after)) := by
          rw [List.append_assoc, hbefore.renderTokens_append]
      _ = _ := hfirst.renderTokens_append engine context _

/-! ## Templates -/

/-- **Templates side by side.** Behind a template `a` with balanced blocks, any template `b` may
stand that makes no opening with it. What comes of the whole is the fault of reading `b`, or else
the failure of rendering `a`, or else that of rendering `b`, or else the texts of both. -/
theorem result_render_append {a b : String} {tokens : List Token} (ha : tokenize a = .ok tokens)
    (hbalanced : Balanced tokens) (hseam : Apart a.toList b.toList) :
    (render engine context (a ++ b)).result = (do
      let _ ← (tokenize b).mapError Failure.template
      let text ← (render engine context a).result
      let others ← (render engine context b).result
      .ok (text ++ others)) := by
  rw [result_render, result_render, result_render, ha]
  rcases tokenize_append ha hseam with ⟨e, hsecond, hwhole⟩ | ⟨second, whole, hsecond, hwhole, h⟩
  · rw [hsecond, hwhole]
    rfl
  · rw [hsecond, hwhole]
    show (renderTokens engine context whole).result = _
    rw [h.renderTokens_eq engine context hbalanced, Logged.result_append]
    rfl

end

/-- A loop and a brace behind it. -/
def loopTemplate : String := "\x7b% for i in (1..2) %\x7d\x7b% i %\x7d\x7b% endfor %\x7d\x7b"

/-- The tokens of the loop and the brace. -/
def loopTokens : List Token :=
  [.forStart ⟨"i", .range 1 2, Table.empty⟩, .tag ⟨"i", Table.empty, none⟩, .forEnd, .literal "\x7b"]

/-- The brace at the end of the one makes no opening with the brace that opens the other. -/
theorem result_render_loopTemplate_append :
    tokenize loopTemplate = .ok loopTokens ∧ Balanced loopTokens ∧
      Apart loopTemplate.toList "\x7b% sender %\x7d".toList ∧
      (render ⟨Pipes.default, ⟨0, Zone.utc⟩⟩ { sender := some "s" }
        (loopTemplate ++ "\x7b% sender %\x7d")).result.toOption = some ("12\x7bs" : Utf16) := by
  have hread : tokenize loopTemplate = .ok loopTokens := by decide +kernel
  have hbalanced : Balanced loopTokens := by decide
  have hseam : Apart loopTemplate.toList "\x7b% sender %\x7d".toList := by
    rintro ⟨-, hstart⟩
    revert hstart
    decide
  refine ⟨hread, hbalanced, hseam, ?_⟩
  rw [result_render_append _ _ hread hbalanced hseam]
  decide +kernel

end PromptTemplate
