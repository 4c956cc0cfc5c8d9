import Mathlib.Logic.ExistsUnique
import PromptTemplate.Proofs.Block.Balance
/-!
# Where the blocks of a list break

Every token list is a balanced list and a remainder: nothing, an end without a start, or a start
without an end, with whatever stands behind it. `existsUnique_isSplit`: it is so in exactly one
way, which `split` finds.
-/

namespace PromptTemplate

/-- What stands behind the balanced beginning of a token list. -/
inductive Remainder where
  | nothing
  | strayEnd (rest : List Token)
  | openStart (header : ForHeader) (rest : List Token)
  deriving Repr, DecidableEq

namespace Remainder

/-- The tokens of a remainder. -/
def tokens : Remainder → List Token
  | nothing => []
  | strayEnd rest => .forEnd :: rest
  | openStart header rest => .forStart header :: rest

/-- No end behind the start, if the remainder is one, matches it: what stands before the end is
never balanced. -/
def IsOpen : Remainder → Prop
  | openStart _ rest => ∀ body after, rest = body ++ .forEnd :: after → ¬ Balanced body
  | _ => True

end Remainder

/-- The list is a balanced list and a remainder. -/
structure IsSplit (tokens balanced : List Token) (remainder : Remainder) : Prop where
  eq_append : tokens = balanced ++ remainder.tokens
  isBalanced : Balanced balanced
  isOpen : remainder.IsOpen

/-- The balanced beginning of a list, and its remainder. -/
def split : List Token → List Token × Remainder
  | [] => ([], .nothing)
  | .literal text :: rest => let s := split rest; (.literal text :: s.1, s.2)
  | .tag tag :: rest => let s := split rest; (.tag tag :: s.1, s.2)
  | .forEnd :: rest => ([], .strayEnd rest)
  | .forStart header :: rest =>
    match _h : cutBody? rest with
    | none => ([], .openStart header rest)
    | some (body, after) =>
      let s := split after
      (.forStart header :: (body ++ .forEnd :: s.1), s.2)
termination_by tokens => tokens.length
decreasing_by
  all_goals simp only [List.length_cons]
  · omega
  · omega
  · have := length_of_cutBody? _h
    omega

theorem split_forStart {header : ForHeader} {rest body after : List Token}
    (h : cutBody? rest = some (body, after)) :
    split (.forStart header :: rest) =
      (.forStart header :: (body ++ .forEnd :: (split after).1), (split after).2) := by
  rw [split]
  split
  · next hnone => rw [h] at hnone; cases hnone
  · next body' after' hsome => rw [h] at hsome; cases hsome; rfl

theorem split_openStart {header : ForHeader} {rest : List Token} (h : cutBody? rest = none) :
    split (.forStart header :: rest) = ([], .openStart header rest) := by
  rw [split]
  split
  · rfl
  · next body after hsome => rw [h] at hsome; cases hsome

theorem isSplit_split (tokens : List Token) : IsSplit tokens (split tokens).1 (split tokens).2 := by
  fun_induction split tokens with
  | case1 => exact ⟨rfl, balanced_nil, trivial⟩
  | case2 text rest s ih =>
    exact ⟨congrArg (Token.literal text :: ·) ih.eq_append, closes_literal_iff.2 ih.isBalanced,
      ih.isOpen⟩
  | case3 tag rest s ih =>
    exact ⟨congrArg (Token.tag tag :: ·) ih.eq_append, closes_tag_iff.2 ih.isBalanced, ih.isOpen⟩
  | case4 rest => exact ⟨rfl, balanced_nil, trivial⟩
  | case5 header rest h => exact ⟨rfl, balanced_nil, cutBody?_eq_none_iff.1 h⟩
  | case6 header rest body after h s ih =>
    obtain ⟨heq, hbody⟩ := cutBody?_eq_some_iff.1 h
    refine ⟨?_, hbody.loop ih.isBalanced, ih.isOpen⟩
    rw [heq, ih.eq_append]
    simp [s]

/-- A split is the one that `split` finds: the beginning is taken off block by block. -/
theorem split_tokensAll_append (blocks : List Block) {remainder : Remainder}
    (h : remainder.IsOpen) :
    split (Block.tokensAll blocks ++ remainder.tokens) = (Block.tokensAll blocks, remainder) := by
  induction blocks with
  | nil =>
    cases remainder with
    | nothing => rw [Block.tokensAll, Remainder.tokens, List.nil_append, split]
    | strayEnd rest => rw [Block.tokensAll, Remainder.tokens, List.nil_append, split]
    | openStart header rest =>
      rw [Block.tokensAll, Remainder.tokens, List.nil_append,
        split_openStart (cutBody?_eq_none_iff.2 h)]
  | cons block blocks ih =>
    cases block with
    | literal text =>
      rw [Block.tokensAll, Block.tokens, List.singleton_append, List.cons_append, split, ih]
    | tag tag =>
      rw [Block.tokensAll, Block.tokens, List.singleton_append, List.cons_append, split, ih]
    | loop header body =>
      have hcut := cutBody?_append (Block.balanced_tokensAll body)
        (Block.tokensAll blocks ++ remainder.tokens)
      rw [Block.tokensAll, Block.tokens, List.cons_append, List.append_assoc,
        List.singleton_append, List.cons_append, List.append_assoc, List.cons_append,
        split_forStart hcut, ih]

theorem IsSplit.eq_split {tokens balanced : List Token} {remainder : Remainder}
    (h : IsSplit tokens balanced remainder) : (balanced, remainder) = split tokens := by
  obtain ⟨blocks, rfl⟩ := h.isBalanced.exists_blocks
  rw [h.eq_append, split_tokensAll_append blocks h.isOpen]

theorem existsUnique_isSplit (tokens : List Token) :
    ∃! s : List Token × Remainder, IsSplit tokens s.1 s.2 :=
  ⟨split tokens, isSplit_split tokens, fun _ h => h.eq_split⟩

end PromptTemplate
