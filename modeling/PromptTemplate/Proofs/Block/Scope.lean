import PromptTemplate.Proofs.Block.Balance
/-!
# Scopes

A loop variable is bound in the body of its for-block. `withScopes` goes over a token list, balanced
or not, and gives each token the loop variables of the for-blocks that it stands in. A balanced list
leaves behind the scope that it found (`Closes.scopeBehind_eq`), so the scope of a body is that of
its block with one more variable, and behind the block everything is as before it
(`withScopes_loop`).
-/

namespace PromptTemplate

/-- The loop variables that are bound behind a token, the innermost first. -/
def Token.scopeBehind (bound : List String) : Token → List String
  | literal _ => bound
  | tag _ => bound
  | forStart header => header.var :: bound
  | forEnd => bound.tail

/-- The loop variables that are bound behind tokens. -/
def scopeBehind (bound : List String) (tokens : List Token) : List String :=
  tokens.foldl Token.scopeBehind bound

/-- Each token with the loop variables of the for-blocks that it stands in. -/
def withScopes (bound : List String) : List Token → List (List String × Token)
  | [] => []
  | token :: rest => (bound, token) :: withScopes (token.scopeBehind bound) rest

theorem withScopes_append (bound : List String) (first second : List Token) :
    withScopes bound (first ++ second) =
      withScopes bound first ++ withScopes (scopeBehind bound first) second := by
  induction first generalizing bound with
  | nil => rfl
  | cons token rest ih =>
    rw [List.cons_append, withScopes, withScopes, ih]
    rfl

/-- Nothing is lost. -/
theorem map_snd_withScopes (bound : List String) (tokens : List Token) :
    (withScopes bound tokens).map Prod.snd = tokens := by
  induction tokens generalizing bound with
  | nil => rfl
  | cons token rest ih => rw [withScopes, List.map_cons, ih]

/-- The variables of the starts that a list closes are gone behind it. -/
theorem Closes.scopeBehind_eq {depth : Nat} {tokens : List Token} (h : Closes depth tokens)
    {inner : List String} (hinner : inner.length = depth) (bound : List String) :
    scopeBehind (inner ++ bound) tokens = bound := by
  induction h using Closes.induction generalizing inner with
  | nil =>
    rw [List.eq_nil_of_length_eq_zero hinner]
    rfl
  | literal depth text rest h ih => exact ih hinner
  | tag depth tag rest h ih => exact ih hinner
  | forStart depth header rest h ih => exact @ih (header.var :: inner) (congrArg Nat.succ hinner)
  | forEnd depth rest h ih =>
    cases inner with
    | nil => cases hinner
    | cons var inner => exact ih (Nat.succ.inj hinner)

theorem Balanced.scopeBehind_eq {tokens : List Token} (h : Balanced tokens) (bound : List String) :
    scopeBehind bound tokens = bound :=
  @Closes.scopeBehind_eq 0 tokens h [] rfl bound

/-- What is bound around the starts that a list closes is bound all over the list. -/
theorem Closes.subset_of_mem_withScopes {depth : Nat} {tokens : List Token}
    (h : Closes depth tokens) {inner : List String} (hinner : inner.length = depth)
    (bound : List String) : ∀ e ∈ withScopes (inner ++ bound) tokens, bound ⊆ e.1 := by
  have hfirst (inner : List String) : bound ⊆ inner ++ bound := List.subset_append_right _ _
  induction h using Closes.induction generalizing inner with
  | nil => exact fun e he => absurd he List.not_mem_nil
  | literal depth text rest h ih => exact List.forall_mem_cons.2 ⟨hfirst inner, ih hinner⟩
  | tag depth tag rest h ih => exact List.forall_mem_cons.2 ⟨hfirst inner, ih hinner⟩
  | forStart depth header rest h ih =>
    have hrest := @ih (header.var :: inner) (congrArg Nat.succ hinner)
    exact List.forall_mem_cons.2 ⟨hfirst inner, hrest⟩
  | forEnd depth rest h ih =>
    cases inner with
    | nil => cases hinner
    | cons var inner =>
      exact List.forall_mem_cons.2 ⟨hfirst (var :: inner), ih (Nat.succ.inj hinner)⟩

theorem Balanced.subset_of_mem_withScopes {bound : List String} {tokens : List Token}
    (h : Balanced tokens) : ∀ e ∈ withScopes bound tokens, bound ⊆ e.1 :=
  @Closes.subset_of_mem_withScopes 0 tokens h [] rfl bound

/-- What stands behind a balanced list is in the scope that the list is in. -/
theorem Balanced.withScopes_append {tokens : List Token} (h : Balanced tokens) (bound : List String)
    (rest : List Token) :
    withScopes bound (tokens ++ rest) = withScopes bound tokens ++ withScopes bound rest := by
  rw [PromptTemplate.withScopes_append, h.scopeBehind_eq]

/-- The body of a for-block is in the scope of the block with the loop variable. -/
theorem withScopes_loop {body : List Token} (h : Balanced body) (bound : List String)
    (header : ForHeader) (after : List Token) :
    withScopes bound (.forStart header :: (body ++ .forEnd :: after)) =
      (bound, .forStart header) :: (withScopes (header.var :: bound) body ++
        (header.var :: bound, .forEnd) :: withScopes bound after) := by
  rw [withScopes, Token.scopeBehind, h.withScopes_append]
  rfl

end PromptTemplate
