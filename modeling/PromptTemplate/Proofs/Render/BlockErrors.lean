import PromptTemplate.Proofs.Block.Split
import PromptTemplate.Proofs.Render.ErrorKinds
/-!
# Block errors

Whether a render can fail by a start without an end or an end without a start is a matter of its
tokens alone (`renderTokens_of_isSplit`). A balanced list never does. Any other list does as soon
as its balanced beginning has been rendered, so it never gives a text, and what stands behind the
place where the blocks break has no part in the run.
-/

namespace PromptTemplate

/-- The failure is a start without an end or an end without a start. -/
def Failure.IsBlockError (failure : Failure) : Prop :=
  failure.templateKind? = some .unterminatedForLoop ∨
    failure.templateKind? = some .unexpectedEndFor

/-- No pipe raises an error of these two kinds itself. -/
def Pipes.RaiseNoBlockError (pipes : Pipes) : Prop :=
  ∀ name pipe, pipes.get? name = some pipe → ∀ input, FailsOnly (¬ ·.IsBlockError) (pipe input)

theorem Pipes.get?_default (name : String) :
    Pipes.default.get? name = if name = "summary" then some summary else none := by
  show (Table.empty.insert "summary" summary).get? name = _
  rw [Table.get?_insert, Table.get?_empty]

theorem Pipes.default_failsOnly {name : String} {pipe : Pipe}
    (h : Pipes.default.get? name = some pipe) (P : Failure → Prop) (input : Utf16) :
    FailsOnly P (pipe input) := by
  rw [Pipes.get?_default] at h
  split at h
  · cases h
    exact failsOnly_ok _
  · cases h

/-- The run, with a failure in place of its text: what it logs stays, and if it fails itself then
its own failure is the first. -/
def Logged.thenFail (run : Logged Utf16) (failure : Failure) : Logged Utf16 where
  log := run.log
  result := match run.result with
    | .ok _ => .error failure
    | .error first => .error first

theorem not_isBlockError_of_isLookup {e : TemplateError} (h : e.IsLookup) :
    ¬ (Failure.template e).IsBlockError := by
  have hkind := h.2
  rintro (h' | h') <;>
    · rw [Failure.templateKind?, Option.some.injEq] at h'
      rw [h'] at hkind
      cases hkind

theorem Engine.FailsWithin.renderBalanced {P : Failure → Prop} {engine : Engine}
    (hengine : engine.FailsWithin P) {tokens : List Token} (h : Balanced tokens)
    (context : Context) : FailsOnly P (renderTokens engine context tokens).result := by
  obtain ⟨blocks, rfl⟩ := h.exists_blocks
  rw [renderTokens_tokensAll]
  exact hengine.renderAll blocks context

theorem Balanced.failsOnly_renderTokens {tokens : List Token} (h : Balanced tokens)
    {engine : Engine} (hpipes : engine.pipes.RaiseNoBlockError) (context : Context) :
    FailsOnly (¬ ·.IsBlockError) (renderTokens engine context tokens).result := by
  have hengine : engine.FailsWithin (¬ ·.IsBlockError) :=
    ⟨fun e he => not_isBlockError_of_isLookup he, hpipes⟩
  exact hengine.renderBalanced h context

/-- Any list is rendered up to where its blocks break, if they do. -/
theorem Engine.FailsWithin.renderTokens {P : Failure → Prop} {engine : Engine}
    (h : engine.FailsWithin P) (hstray : P (.template .strayEndFor))
    (hopen : P (.template .unterminatedFor)) (context : Context) (tokens : List Token) :
    FailsOnly P (renderTokens engine context tokens).result := by
  obtain ⟨heq, hbalanced, hremainder⟩ := isSplit_split tokens
  have hbegin := h.renderBalanced hbalanced context
  rw [heq]
  cases hsplit : (split tokens).2 with
  | nothing => rwa [Remainder.tokens, List.append_nil]
  | strayEnd rest =>
    rw [Remainder.tokens, hbalanced.renderTokens_append, renderTokens_forEnd]
    exact Logged.failsOnly_append hbegin (failsOnly_error hstray)
  | openStart header rest =>
    rw [hsplit] at hremainder
    rw [Remainder.tokens, hbalanced.renderTokens_append,
      renderTokens_unclosed engine context header (cutBody?_eq_none_iff.2 hremainder)]
    exact Logged.failsOnly_append hbegin (failsOnly_error hopen)

theorem Logged.append_fail (run : Logged Utf16) (failure : Failure) :
    run ++ fail failure = run.thenFail failure := by
  obtain ⟨log, result⟩ := run
  cases result with
  | error first => rfl
  | ok text =>
    show Logged.mk (log ++ []) _ = Logged.mk log _
    rw [List.append_nil]
    rfl

/-- **Block errors.** Every list is in exactly one way a balanced list and a remainder. Without a
remainder no block error arises, however deep its blocks are nested. Otherwise the run is that of
the balanced list alone, ended by the error of the remainder: nothing that stands in the remainder
has any part in it. -/
theorem renderTokens_of_isSplit (tokens : List Token) :
    (∃! s : List Token × Remainder, IsSplit tokens s.1 s.2) ∧
      ∀ (balanced : List Token) (remainder : Remainder), IsSplit tokens balanced remainder →
        ∀ (engine : Engine) (context : Context),
          match remainder with
          | .nothing => engine.pipes.RaiseNoBlockError → ∀ failure,
              (renderTokens engine context tokens).result = .error failure →
                ¬ failure.IsBlockError
          | .strayEnd _ => renderTokens engine context tokens =
              (renderTokens engine context balanced).thenFail (.template .strayEndFor)
          | .openStart _ _ => renderTokens engine context tokens =
              (renderTokens engine context balanced).thenFail (.template .unterminatedFor) := by
  refine ⟨existsUnique_isSplit tokens, ?_⟩
  rintro balanced remainder ⟨rfl, hbalanced, hopen⟩ engine context
  cases remainder with
  | nothing =>
    intro hpipes
    rw [Remainder.tokens, List.append_nil]
    exact hbalanced.failsOnly_renderTokens hpipes context
  | strayEnd rest =>
    show renderTokens engine context (balanced ++ .forEnd :: rest) = _
    rw [hbalanced.renderTokens_append, renderTokens_forEnd, Logged.append_fail]
  | openStart header rest =>
    show renderTokens engine context (balanced ++ .forStart header :: rest) = _
    rw [hbalanced.renderTokens_append,
      renderTokens_unclosed engine context header (cutBody?_eq_none_iff.2 hopen),
      Logged.append_fail]

theorem Pipes.default_raiseNoBlockError : Pipes.default.RaiseNoBlockError :=
  fun _ _ hpipe => default_failsOnly hpipe _

/-- The two loops give no block error; without the last end the inner loop takes the one that is
left, and the outer one is open. -/
theorem renderTokens_shadowedLoops_of_isSplit :
    (IsSplit shadowedLoops shadowedLoops .nothing ∧ Pipes.default.RaiseNoBlockError ∧
      ∀ failure, (renderTokens ⟨Pipes.default, ⟨0, Zone.utc⟩⟩ {} shadowedLoops).result =
        .error failure → ¬ failure.IsBlockError) ∧
    IsSplit shadowedLoops.dropLast []
        (.openStart ⟨"i", .range 1 2, Table.empty⟩ shadowedLoops.dropLast.tail) ∧
      renderTokens ⟨Pipes.default, ⟨0, Zone.utc⟩⟩ {} shadowedLoops.dropLast =
        (renderTokens ⟨Pipes.default, ⟨0, Zone.utc⟩⟩ {} []).thenFail (.template .unterminatedFor) := by
  have hwhole : IsSplit shadowedLoops shadowedLoops .nothing := ⟨rfl, by decide, trivial⟩
  have hcut : IsSplit shadowedLoops.dropLast []
      (.openStart ⟨"i", .range 1 2, Table.empty⟩ shadowedLoops.dropLast.tail) :=
    ⟨rfl, balanced_nil, cutBody?_eq_none_iff.1 rfl⟩
  refine ⟨⟨hwhole, Pipes.default_raiseNoBlockError, ?_⟩, hcut, ?_⟩
  · exact (renderTokens_of_isSplit shadowedLoops).2 _ _ hwhole _ _ Pipes.default_raiseNoBlockError
  · exact (renderTokens_of_isSplit shadowedLoops.dropLast).2 _ _ hcut _ _

end PromptTemplate
