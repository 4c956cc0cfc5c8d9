import PromptTemplate.Block.Tree
/-!
# Balanced token lists

A token list is balanced if its starts and ends match by number: no beginning of it has more ends
than starts, and the whole list has as many of both. `Closes depth` is the same for a list behind
`depth` open starts.

1. `cutBodyAt?_eq_some_iff`: the cut at an end is the only one with such a list before it.
2. `collectBody_eq_iff`: so the body of a for-block is the balanced list before an end, of which
   there is one at most.
3. `exists_cut_of_closes`: behind an open start of a balanced list there is such a cut, so that one
   can go over a balanced list block by block (`Balanced.induction`).
4. `balanced_iff_exists_blocks`: the balanced lists are the token lists of block sequences, and
   `Block.ofTokens?` finds the blocks.
-/

namespace PromptTemplate

/-- The tokens close `depth` starts that stand before them and every start among themselves, and
no end is left over. -/
structure Closes (depth : Nat) (tokens : List Token) : Prop where
  /-- Along the way no end is without a start. -/
  ends_le : ∀ p, p <+: tokens → p.count .forEnd ≤ depth + p.countP Token.isForStart
  /-- In the end no start is open. -/
  ends_eq : tokens.count .forEnd = depth + tokens.countP Token.isForStart

/-- Every start in the list has its end and every end its start. -/
def Balanced (tokens : List Token) : Prop := Closes 0 tokens

/-! ## One token at a time -/

theorem closes_nil_iff {depth : Nat} : Closes depth [] ↔ depth = 0 := by
  constructor
  · intro h
    have := h.ends_eq
    simpa using this.symm
  · rintro rfl
    refine ⟨fun p hp => ?_, rfl⟩
    rw [List.prefix_nil.1 hp]
    simp

theorem balanced_nil : Balanced [] := closes_nil_iff.2 rfl

/-- What a token adds to the count of ends on the left and to that of starts on the right carries
over to the tokens behind it. -/
theorem closes_cons_iff {depth depth' : Nat} {token : Token} {tokens : List Token}
    (h : [token].count .forEnd + depth' = depth + [token].countP Token.isForStart) :
    Closes depth (token :: tokens) ↔ Closes depth' tokens := by
  have hend : ∀ p : List Token, (token :: p).count .forEnd =
      [token].count .forEnd + p.count .forEnd := by
    intro p
    rw [← List.singleton_append, List.count_append]
  have hstart : ∀ p : List Token, (token :: p).countP Token.isForStart =
      [token].countP Token.isForStart + p.countP Token.isForStart := by
    intro p
    rw [← List.singleton_append, List.countP_append]
  constructor
  · rintro ⟨hle, heq⟩
    refine ⟨fun p hp => ?_, ?_⟩
    · have := hle (token :: p) ((List.prefix_cons_inj token).2 hp)
      rw [hend, hstart] at this
      omega
    · rw [hend, hstart] at heq
      omega
  · rintro ⟨hle, heq⟩
    refine ⟨fun p hp => ?_, ?_⟩
    · rcases List.prefix_cons_iff.1 hp with rfl | ⟨q, rfl, hq⟩
      · simp
      · have := hle q hq
        rw [hend, hstart]
        omega
    · rw [hend, hstart]
      omega

theorem closes_literal_iff {depth : Nat} {text : String} {tokens : List Token} :
    Closes depth (.literal text :: tokens) ↔ Closes depth tokens :=
  closes_cons_iff (by simp [Token.isForStart])

theorem closes_tag_iff {depth : Nat} {tag : Tag} {tokens : List Token} :
    Closes depth (.tag tag :: tokens) ↔ Closes depth tokens :=
  closes_cons_iff (by simp [Token.isForStart])

theorem closes_forStart_iff {depth : Nat} {header : ForHeader} {tokens : List Token} :
    Closes depth (.forStart header :: tokens) ↔ Closes (depth + 1) tokens :=
  closes_cons_iff (by simp [Token.isForStart])

theorem closes_forEnd_iff {depth : Nat} {tokens : List Token} :
    Closes (depth + 1) (.forEnd :: tokens) ↔ Closes depth tokens :=
  closes_cons_iff (by simp [Token.isForStart]; omega)

theorem not_balanced_forEnd (tokens : List Token) : ¬ Balanced (.forEnd :: tokens) := by
  intro h
  have := h.ends_le [.forEnd] ((List.prefix_cons_inj _).2 (List.nil_prefix))
  simp [Token.isForStart] at this

instance Closes.decidable : ∀ (depth : Nat) (tokens : List Token), Decidable (Closes depth tokens)
  | _, [] => decidable_of_iff _ closes_nil_iff.symm
  | depth, .literal _ :: rest =>
    @decidable_of_iff _ _ closes_literal_iff.symm (Closes.decidable depth rest)
  | depth, .tag _ :: rest =>
    @decidable_of_iff _ _ closes_tag_iff.symm (Closes.decidable depth rest)
  | depth, .forStart _ :: rest =>
    @decidable_of_iff _ _ closes_forStart_iff.symm (Closes.decidable (depth + 1) rest)
  | 0, .forEnd :: rest => isFalse (not_balanced_forEnd rest)
  | depth + 1, .forEnd :: rest =>
    @decidable_of_iff _ _ closes_forEnd_iff.symm (Closes.decidable depth rest)

instance (tokens : List Token) : Decidable (Balanced tokens) := Closes.decidable 0 tokens

/-- To prove something of all lists that close their starts, one token at a time. -/
@[elab_as_elim]
theorem Closes.induction
    {motive : (depth : Nat) → (tokens : List Token) → Closes depth tokens → Prop}
    (nil : motive 0 [] balanced_nil)
    (literal : ∀ (depth : Nat) (text : String) (rest : List Token) (h : Closes depth rest),
      motive depth rest h → motive depth (.literal text :: rest) (closes_literal_iff.2 h))
    (tag : ∀ (depth : Nat) (tag : Tag) (rest : List Token) (h : Closes depth rest),
      motive depth rest h → motive depth (.tag tag :: rest) (closes_tag_iff.2 h))
    (forStart : ∀ (depth : Nat) (header : ForHeader) (rest : List Token)
      (h : Closes (depth + 1) rest),
      motive (depth + 1) rest h → motive depth (.forStart header :: rest) (closes_forStart_iff.2 h))
    (forEnd : ∀ (depth : Nat) (rest : List Token) (h : Closes depth rest),
      motive depth rest h → motive (depth + 1) (.forEnd :: rest) (closes_forEnd_iff.2 h))
    {depth : Nat} {tokens : List Token} (h : Closes depth tokens) : motive depth tokens h := by
  induction tokens generalizing depth with
  | nil =>
    obtain rfl := closes_nil_iff.1 h
    exact nil
  | cons token rest ih =>
    cases token with
    | literal text => exact literal depth text rest _ (ih (closes_literal_iff.1 h))
    | tag t => exact tag depth t rest _ (ih (closes_tag_iff.1 h))
    | forStart header => exact forStart depth header rest _ (ih (closes_forStart_iff.1 h))
    | forEnd =>
      cases depth with
      | zero => exact absurd h (not_balanced_forEnd rest)
      | succ depth => exact forEnd depth rest _ (ih (closes_forEnd_iff.1 h))

theorem Closes.append {depth depth' : Nat} {first second : List Token} (h : Closes depth first)
    (h' : Closes depth' second) : Closes (depth + depth') (first ++ second) := by
  induction h using Closes.induction with
  | nil =>
    rw [Nat.zero_add]
    exact h'
  | literal depth text rest h ih => exact closes_literal_iff.2 ih
  | tag depth tag rest h ih => exact closes_tag_iff.2 ih
  | forStart depth header rest h ih =>
    rw [Nat.add_right_comm] at ih
    exact closes_forStart_iff.2 ih
  | forEnd depth rest h ih =>
    rw [Nat.add_right_comm]
    exact closes_forEnd_iff.2 ih

theorem Balanced.append {first second : List Token} (h : Balanced first) (h' : Balanced second) :
    Balanced (first ++ second) :=
  Closes.append h h'

/-- A balanced list between a start and an end, and another behind them. -/
theorem Balanced.loop {header : ForHeader} {body after : List Token} (hbody : Balanced body)
    (hafter : Balanced after) : Balanced (.forStart header :: (body ++ .forEnd :: after)) :=
  closes_forStart_iff.2 (Closes.append hbody (closes_forEnd_iff.2 hafter))

/-! ## The cut at an end -/

theorem cutBodyAt?_append {depth : Nat} {body : List Token} (h : Closes depth body)
    (after : List Token) : cutBodyAt? depth (body ++ .forEnd :: after) = some (body, after) := by
  induction h using Closes.induction with
  | nil => rfl
  | literal depth text rest h ih =>
    rw [List.cons_append, cutBodyAt?, ih]
    rfl
  | tag depth tag rest h ih =>
    rw [List.cons_append, cutBodyAt?, ih]
    rfl
  | forStart depth header rest h ih =>
    rw [List.cons_append, cutBodyAt?, ih]
    rfl
  | forEnd depth rest h ih =>
    rw [List.cons_append, cutBodyAt?, ih]
    rfl

theorem closes_of_cutBodyAt? {depth : Nat} {tokens body after : List Token}
    (h : cutBodyAt? depth tokens = some (body, after)) : Closes depth body := by
  induction tokens generalizing depth body with
  | nil => simp [cutBodyAt?] at h
  | cons token rest ih =>
    -- A token that does not end the body is its first one.
    have step {depth' : Nat} (hclose : ∀ {cut}, Closes depth' cut → Closes depth (token :: cut))
        (h' : (cutBodyAt? depth' rest).map (fun cut => (token :: cut.1, cut.2)) =
          some (body, after)) : Closes depth body := by
      obtain ⟨⟨cut, after'⟩, hcut, heq⟩ := Option.map_eq_some_iff.1 h'
      simp only [Prod.mk.injEq] at heq
      obtain ⟨rfl, rfl⟩ := heq
      exact hclose (ih hcut)
    cases token with
    | literal text => exact step closes_literal_iff.2 (by simpa only [cutBodyAt?] using h)
    | tag tag => exact step closes_tag_iff.2 (by simpa only [cutBodyAt?] using h)
    | forStart header => exact step closes_forStart_iff.2 (by simpa only [cutBodyAt?] using h)
    | forEnd =>
      cases depth with
      | zero =>
        simp only [cutBodyAt?, Option.some.injEq, Prod.mk.injEq] at h
        rw [← h.1]
        exact balanced_nil
      | succ depth => exact step closes_forEnd_iff.2 (by simpa only [cutBodyAt?] using h)

/-- The cut is the one whose first part closes the starts that are open. -/
theorem cutBodyAt?_eq_some_iff {depth : Nat} {tokens body after : List Token} :
    cutBodyAt? depth tokens = some (body, after) ↔
      tokens = body ++ .forEnd :: after ∧ Closes depth body := by
  constructor
  · intro h
    exact ⟨eq_append_of_cutBodyAt? h, closes_of_cutBodyAt? h⟩
  · rintro ⟨rfl, h⟩
    exact cutBodyAt?_append h after

theorem cutBody?_eq_some_iff {tokens body after : List Token} :
    cutBody? tokens = some (body, after) ↔ tokens = body ++ .forEnd :: after ∧ Balanced body :=
  cutBodyAt?_eq_some_iff

theorem cutBody?_append {body : List Token} (h : Balanced body) (after : List Token) :
    cutBody? (body ++ .forEnd :: after) = some (body, after) :=
  cutBodyAt?_append h after

/-- There is no cut if no end matches. -/
theorem cutBody?_eq_none_iff {tokens : List Token} :
    cutBody? tokens = none ↔ ∀ body after, tokens = body ++ .forEnd :: after → ¬ Balanced body := by
  rw [Option.eq_none_iff_forall_not_mem]
  constructor
  · intro h body after heq hbody
    exact h (body, after) (cutBody?_eq_some_iff.2 ⟨heq, hbody⟩)
  · rintro h ⟨body, after⟩ hcut
    obtain ⟨heq, hbody⟩ := cutBody?_eq_some_iff.1 hcut
    exact h body after heq hbody

/-! ## The body of a for-block -/

/-- Behind the start of a for-block stand its body, its end and the rest. -/
structure IsBodyOf (tokens : List Token) (found : ForBody) (rest : List Token) : Prop where
  eq_append : tokens = found.body ++ [.forEnd] ++ rest
  balanced : Balanced found.body
  endIndex : found.endIndex = found.body.length

theorem isBodyOf_iff {tokens rest : List Token} {found : ForBody} :
    IsBodyOf tokens found rest ↔
      cutBody? tokens = some (found.body, rest) ∧ found.endIndex = found.body.length := by
  rw [cutBody?_eq_some_iff]
  constructor
  · rintro ⟨heq, hbody, hend⟩
    rw [List.append_assoc, List.singleton_append] at heq
    exact ⟨⟨heq, hbody⟩, hend⟩
  · rintro ⟨⟨heq, hbody⟩, hend⟩
    refine ⟨?_, hbody, hend⟩
    rw [List.append_assoc, List.singleton_append]
    exact heq

theorem IsBodyOf.unique {tokens rest rest' : List Token} {found found' : ForBody}
    (h : IsBodyOf tokens found rest) (h' : IsBodyOf tokens found' rest') :
    found = found' ∧ rest = rest' := by
  obtain ⟨hcut, hend⟩ := isBodyOf_iff.1 h
  obtain ⟨hcut', hend'⟩ := isBodyOf_iff.1 h'
  rw [hcut, Option.some_inj, Prod.mk.injEq] at hcut'
  obtain ⟨hbody, hrest⟩ := hcut'
  obtain ⟨body, endIndex⟩ := found
  obtain ⟨body', endIndex'⟩ := found'
  cases hbody
  exact ⟨congrArg (ForBody.mk body) (hend.trans hend'.symm), hrest⟩

theorem cutBody?_eq_none_iff_isBodyOf {tokens : List Token} :
    cutBody? tokens = none ↔ ∀ found rest, ¬ IsBodyOf tokens found rest := by
  constructor
  · intro hnone found rest h
    rw [(isBodyOf_iff.1 h).1] at hnone
    cases hnone
  · intro h
    cases hcut : cutBody? tokens with
    | none => rfl
    | some cut => exact absurd (isBodyOf_iff.2 ⟨hcut, rfl⟩) (h ⟨cut.1, cut.1.length⟩ cut.2)

theorem collectBody_eq_ok_iff {tokens : List Token} {found : ForBody} :
    collectBody tokens = .ok found ↔ ∃ rest, IsBodyOf tokens found rest := by
  constructor
  · intro h
    cases hcut : cutBody? tokens with
    | none =>
      rw [collectBody_of_unclosed hcut] at h
      cases h
    | some cut =>
      rw [collectBody_of_cutBody? hcut] at h
      cases h
      exact ⟨cut.2, isBodyOf_iff.2 ⟨hcut, rfl⟩⟩
  · rintro ⟨rest, h⟩
    obtain ⟨hcut, hend⟩ := isBodyOf_iff.1 h
    rw [collectBody_of_cutBody? hcut, ← hend]

theorem collectBody_eq_error_iff {tokens : List Token} {e : TemplateError} :
    collectBody tokens = .error e ↔
      e = .unterminatedFor ∧ ∀ found rest, ¬ IsBodyOf tokens found rest := by
  rw [← cutBody?_eq_none_iff_isBodyOf]
  constructor
  · intro h
    cases hcut : cutBody? tokens with
    | none =>
      rw [collectBody_of_unclosed hcut] at h
      cases h
      exact ⟨rfl, rfl⟩
    | some cut =>
      rw [collectBody_of_cutBody? hcut] at h
      cases h
  · rintro ⟨rfl, hcut⟩
    exact collectBody_of_unclosed hcut

/-- **For-blocks.** The body that is found is a balanced list with an end behind it, and where that
end stands is told; no other body is such a list; and the only failure is that there is none. -/
theorem collectBody_eq_iff (tokens : List Token) :
    (∀ found, collectBody tokens = .ok found ↔ ∃ rest, IsBodyOf tokens found rest) ∧
      (∀ found found' rest rest', IsBodyOf tokens found rest → IsBodyOf tokens found' rest' →
        found = found' ∧ rest = rest') ∧
      (∀ e, collectBody tokens = .error e ↔
        e = .unterminatedFor ∧ ∀ found rest, ¬ IsBodyOf tokens found rest) ∧
      TemplateError.unterminatedFor.kind = .unterminatedForLoop :=
  ⟨fun _ => collectBody_eq_ok_iff, fun _ _ _ _ h h' => h.unique h',
    fun _ => collectBody_eq_error_iff, rfl⟩

/-- The first end closes a block in the body, and the second one the body. Without the second there
is no body. -/
theorem collectBody_nestedBody :
    let header : ForHeader := ⟨"i", .range 1 2, Table.empty⟩
    let body : List Token := [.literal "a", .forStart header, .forEnd]
    collectBody (body ++ [.forEnd] ++ [.literal "b", .forEnd]) = .ok ⟨body, 3⟩ ∧
      collectBody body = .error .unterminatedFor ∧
      ∀ found rest, ¬ IsBodyOf body found rest := by
  intro header body
  have hbody : IsBodyOf (body ++ [.forEnd] ++ [.literal "b", .forEnd]) ⟨body, 3⟩
      [.literal "b", .forEnd] := ⟨rfl, by decide, rfl⟩
  have hopen : collectBody body = .error .unterminatedFor := rfl
  exact ⟨((collectBody_eq_iff _).1 _).2 ⟨_, hbody⟩, hopen,
    (((collectBody_eq_iff body).2.2.1 _).1 hopen).2⟩

/-! ## Cuts of balanced lists -/

/-- Tokens that close more than `inner` starts go on behind the end that closes one of the outer
ones. -/
theorem exists_cut_of_closes {inner outer : Nat} {tokens : List Token}
    (h : Closes (inner + outer + 1) tokens) :
    ∃ body after, tokens = body ++ .forEnd :: after ∧ Closes inner body ∧ Closes outer after := by
  induction tokens generalizing inner with
  | nil => exact absurd (closes_nil_iff.1 h) (Nat.succ_ne_zero _)
  | cons token rest ih =>
    cases token with
    | literal text =>
      obtain ⟨body, after, rfl, hbody, hafter⟩ := ih (closes_literal_iff.1 h)
      exact ⟨.literal text :: body, after, rfl, closes_literal_iff.2 hbody, hafter⟩
    | tag tag =>
      obtain ⟨body, after, rfl, hbody, hafter⟩ := ih (closes_tag_iff.1 h)
      exact ⟨.tag tag :: body, after, rfl, closes_tag_iff.2 hbody, hafter⟩
    | forStart header =>
      have h' := closes_forStart_iff.1 h
      rw [show inner + outer + 1 + 1 = inner + 1 + outer + 1 by omega] at h'
      obtain ⟨body, after, rfl, hbody, hafter⟩ := ih h'
      exact ⟨.forStart header :: body, after, rfl, closes_forStart_iff.2 hbody, hafter⟩
    | forEnd =>
      have h' := closes_forEnd_iff.1 h
      cases inner with
      | zero =>
        rw [Nat.zero_add] at h'
        exact ⟨[], rest, rfl, balanced_nil, h'⟩
      | succ inner =>
        rw [show inner + 1 + outer = inner + outer + 1 by omega] at h'
        obtain ⟨body, after, rfl, hbody, hafter⟩ := ih h'
        exact ⟨.forEnd :: body, after, rfl, closes_forEnd_iff.2 hbody, hafter⟩

/-- The start that opens a balanced list has its end in it, with balanced lists on both sides. -/
theorem Balanced.exists_cut {header : ForHeader} {rest : List Token}
    (h : Balanced (.forStart header :: rest)) :
    ∃ body after, cutBody? rest = some (body, after) ∧ Balanced body ∧ Balanced after := by
  obtain ⟨body, after, rfl, hbody, hafter⟩ :=
    @exists_cut_of_closes 0 0 rest (closes_forStart_iff.1 h)
  exact ⟨body, after, cutBody?_append hbody after, hbody, hafter⟩

/-- To prove something of all balanced lists, one token or for-block at a time. -/
@[elab_as_elim]
theorem Balanced.induction {motive : (tokens : List Token) → Balanced tokens → Prop}
    (nil : motive [] balanced_nil)
    (literal : ∀ (text : String) (rest : List Token) (h : Balanced rest),
      motive rest h → motive (.literal text :: rest) (closes_literal_iff.2 h))
    (tag : ∀ (tag : Tag) (rest : List Token) (h : Balanced rest),
      motive rest h → motive (.tag tag :: rest) (closes_tag_iff.2 h))
    (loop : ∀ (header : ForHeader) (body after : List Token) (hbody : Balanced body)
      (hafter : Balanced after), motive body hbody → motive after hafter →
      motive (.forStart header :: (body ++ .forEnd :: after)) (hbody.loop hafter))
    {tokens : List Token} (h : Balanced tokens) : motive tokens h := by
  induction hn : tokens.length using Nat.strongRecOn generalizing tokens with
  | ind n ih =>
    subst hn
    cases tokens with
    | nil => exact nil
    | cons token rest =>
      cases token with
      | literal text =>
        exact literal text rest _ (ih rest.length (Nat.lt_succ_self _) (closes_literal_iff.1 h) rfl)
      | tag t => exact tag t rest _ (ih rest.length (Nat.lt_succ_self _) (closes_tag_iff.1 h) rfl)
      | forStart header =>
        obtain ⟨body, after, hcut, hbody, hafter⟩ := h.exists_cut
        have hlen := length_of_cutBody? hcut
        obtain rfl := eq_append_of_cutBody? hcut
        exact loop header body after hbody hafter
          (ih body.length (by simp only [List.length_cons]; omega) hbody rfl)
          (ih after.length (by simp only [List.length_cons]; omega) hafter rfl)
      | forEnd => exact absurd h (not_balanced_forEnd rest)

/-! ## Trees -/

namespace Block

mutual

theorem balanced_tokens : ∀ block : Block, Balanced block.tokens
  | literal text => by
    rw [tokens]
    exact closes_literal_iff.2 balanced_nil
  | tag t => by
    rw [tokens]
    exact closes_tag_iff.2 balanced_nil
  | loop header body => by
    rw [tokens]
    exact (balanced_tokensAll body).loop balanced_nil

theorem balanced_tokensAll : ∀ blocks : List Block, Balanced (tokensAll blocks)
  | [] => by
    rw [tokensAll]
    exact balanced_nil
  | block :: blocks => by
    rw [tokensAll]
    exact (balanced_tokens block).append (balanced_tokensAll blocks)

end

theorem ofTokens?_forStart {header : ForHeader} {rest body after : List Token}
    (h : cutBody? rest = some (body, after)) :
    ofTokens? (.forStart header :: rest) =
      (ofTokens? body).bind fun inner => (ofTokens? after).map (loop header inner :: ·) := by
  rw [ofTokens?]
  split
  · next hnone => rw [h] at hnone; cases hnone
  · next body' after' hsome =>
    rw [h] at hsome
    cases hsome
    cases ofTokens? body <;> cases ofTokens? after <;> rfl

mutual

theorem ofTokens?_tokens_append : ∀ (block : Block) (rest : List Token),
    ofTokens? (block.tokens ++ rest) = (ofTokens? rest).map (block :: ·)
  | literal text, rest => by
    rw [tokens, List.singleton_append, ofTokens?]
  | tag t, rest => by
    rw [tokens, List.singleton_append, ofTokens?]
  | loop header body, rest => by
    have hinner := ofTokens?_tokensAll_append body []
    rw [List.append_nil, ofTokens?, Option.map_some, List.append_nil] at hinner
    rw [tokens, List.cons_append, List.append_assoc, List.singleton_append,
      ofTokens?_forStart (cutBody?_append (balanced_tokensAll body) rest), hinner,
      Option.bind_some]

theorem ofTokens?_tokensAll_append : ∀ (blocks : List Block) (rest : List Token),
    ofTokens? (tokensAll blocks ++ rest) = (ofTokens? rest).map (blocks ++ ·)
  | [], rest => by
    rw [tokensAll, List.nil_append]
    cases ofTokens? rest <;> rfl
  | block :: blocks, rest => by
    rw [tokensAll, List.append_assoc, ofTokens?_tokens_append block,
      ofTokens?_tokensAll_append blocks rest, Option.map_map]
    rfl

end

/-- Reading a tree finds what writing it put down. -/
theorem ofTokens?_tokensAll (blocks : List Block) :
    ofTokens? (tokensAll blocks) = some blocks := by
  have h := ofTokens?_tokensAll_append blocks []
  rwa [List.append_nil, ofTokens?, Option.map_some, List.append_nil] at h

theorem tokensAll_injective {blocks blocks' : List Block}
    (h : tokensAll blocks = tokensAll blocks') : blocks = blocks' :=
  Option.some.inj (by rw [← ofTokens?_tokensAll, h, ofTokens?_tokensAll])

end Block

/-- A balanced list is written by a tree. -/
theorem Balanced.exists_blocks {tokens : List Token} (h : Balanced tokens) :
    ∃ blocks, Block.tokensAll blocks = tokens := by
  induction h using Balanced.induction with
  | nil => exact ⟨[], rfl⟩
  | literal text rest h ih =>
    obtain ⟨blocks, rfl⟩ := ih
    exact ⟨.literal text :: blocks, rfl⟩
  | tag tag rest h ih =>
    obtain ⟨blocks, rfl⟩ := ih
    exact ⟨.tag tag :: blocks, rfl⟩
  | loop header body after hbody hafter ihbody ihafter =>
    obtain ⟨inner, rfl⟩ := ihbody
    obtain ⟨blocks, rfl⟩ := ihafter
    refine ⟨.loop header inner :: blocks, ?_⟩
    rw [Block.tokensAll, Block.tokens, List.cons_append, List.append_assoc, List.singleton_append]

theorem balanced_iff_exists_blocks {tokens : List Token} :
    Balanced tokens ↔ ∃ blocks, Block.tokensAll blocks = tokens := by
  constructor
  · exact Balanced.exists_blocks
  · rintro ⟨blocks, rfl⟩
    exact Block.balanced_tokensAll blocks

end PromptTemplate
