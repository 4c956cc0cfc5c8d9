import PromptTemplate.TemplateError
import PromptTemplate.Token
/-!
# For-blocks

The end that belongs to the start of a for-block is the first one behind it that closes no start
in between. `cutBody?` finds it: the body of the block, whole with every block nested in it, and
the tokens behind the end.
-/

namespace PromptTemplate

/-- The tokens before and behind the first end that closes none of `depth` open starts and no
start among the tokens themselves. -/
def cutBodyAt? : Nat → List Token → Option (List Token × List Token)
  | _, [] => none
  | 0, .forEnd :: rest => some ([], rest)
  | depth + 1, .forEnd :: rest =>
    (cutBodyAt? depth rest).map fun cut => (.forEnd :: cut.1, cut.2)
  | depth, .forStart header :: rest =>
    (cutBodyAt? (depth + 1) rest).map fun cut => (.forStart header :: cut.1, cut.2)
  | depth, .literal text :: rest =>
    (cutBodyAt? depth rest).map fun cut => (.literal text :: cut.1, cut.2)
  | depth, .tag tag :: rest =>
    (cutBodyAt? depth rest).map fun cut => (.tag tag :: cut.1, cut.2)

/-- The body of the for-block whose start stands before the tokens, and the tokens behind its
end. -/
def cutBody? (tokens : List Token) : Option (List Token × List Token) := cutBodyAt? 0 tokens

/-- The body of a for-block and where among the tokens its end stands. -/
structure ForBody where
  body : List Token
  endIndex : Nat
  deriving Repr, DecidableEq

/-- The body of the for-block whose start stands before the tokens. -/
def collectBody (tokens : List Token) : Except TemplateError ForBody :=
  match cutBody? tokens with
  | some (body, _) => .ok ⟨body, body.length⟩
  | none => .error .unterminatedFor

/-! ## Facts -/

/-- Nothing is lost: the tokens are the body, the end and the tokens behind it. -/
theorem eq_append_of_cutBodyAt? {depth : Nat} {tokens body after : List Token}
    (h : cutBodyAt? depth tokens = some (body, after)) : tokens = body ++ .forEnd :: after := by
  induction tokens generalizing depth body with
  | nil => simp [cutBodyAt?] at h
  | cons token rest ih =>
    have step {depth' : Nat} {t : Token}
        (h' : (cutBodyAt? depth' rest).map (fun cut => (t :: cut.1, cut.2)) =
          some (body, after)) : t :: rest = body ++ .forEnd :: after := by
      obtain ⟨⟨body', after'⟩, hcut, heq⟩ := Option.map_eq_some_iff.1 h'
      simp only [Prod.mk.injEq] at heq
      obtain ⟨rfl, rfl⟩ := heq
      rw [ih hcut]
      rfl
    cases token with
    | forEnd =>
      cases depth with
      | zero =>
        simp only [cutBodyAt?, Option.some.injEq, Prod.mk.injEq] at h
        obtain ⟨rfl, rfl⟩ := h
        rfl
      | succ depth => exact step (by simpa only [cutBodyAt?] using h)
    | forStart header => exact step (by simpa only [cutBodyAt?] using h)
    | literal text => exact step (by simpa only [cutBodyAt?] using h)
    | tag tag => exact step (by simpa only [cutBodyAt?] using h)

theorem eq_append_of_cutBody? {tokens body after : List Token}
    (h : cutBody? tokens = some (body, after)) : tokens = body ++ .forEnd :: after :=
  eq_append_of_cutBodyAt? h

theorem length_of_cutBody? {tokens body after : List Token}
    (h : cutBody? tokens = some (body, after)) :
    tokens.length = body.length + after.length + 1 := by
  rw [eq_append_of_cutBody? h]
  simp only [List.length_append, List.length_cons]
  omega

/-- What stands behind the end of the body. -/
theorem drop_of_cutBody? {tokens body after : List Token}
    (h : cutBody? tokens = some (body, after)) : tokens.drop (body.length + 1) = after := by
  rw [eq_append_of_cutBody? h, List.drop_append, List.drop_eq_nil_of_le (by omega)]
  simp

theorem collectBody_of_cutBody? {tokens body after : List Token}
    (h : cutBody? tokens = some (body, after)) : collectBody tokens = .ok ⟨body, body.length⟩ := by
  unfold collectBody
  rw [h]

theorem collectBody_of_unclosed {tokens : List Token} (h : cutBody? tokens = none) :
    collectBody tokens = .error .unterminatedFor := by
  unfold collectBody
  rw [h]

theorem length_of_collectBody {tokens : List Token} {found : ForBody}
    (h : collectBody tokens = .ok found) : found.body.length < tokens.length := by
  cases hcut : cutBody? tokens with
  | none =>
    rw [collectBody_of_unclosed hcut] at h
    cases h
  | some cut =>
    obtain ⟨body, after⟩ := cut
    rw [collectBody_of_cutBody? hcut] at h
    cases h
    have := length_of_cutBody? hcut
    show body.length < tokens.length
    omega

end PromptTemplate
