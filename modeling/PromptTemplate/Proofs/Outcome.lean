import Mathlib.Data.List.Forall2
/-!
# Outcomes

What a computation that went well tells about its parts: each of them went well. Two computations
whose parts differ in nothing but what `f` forgets of their errors differ in nothing else as a whole
(`mapError_bind_congr`). A description that fits some outcome, and only the actual one, fits exactly
that (`eq_iff_of_exists`). A computation over a list goes well if it does so for each element
(`exists_mapM_eq_ok`), and fails as it does for the first element that it fails for
(`mapM_append_eq_error`, `filterM_append_eq_error`).
-/

namespace PromptTemplate

variable {ε ε' α β : Type}

theorem exists_of_bind_eq_ok {outcome : Except ε α} {next : α → Except ε β} {value : β}
    (h : outcome >>= next = .ok value) : ∃ first, outcome = .ok first ∧ next first = .ok value := by
  cases outcome with
  | error e => cases h
  | ok first => exact ⟨first, rfl, h⟩

theorem eq_ok_of_mapError {outcome : Except ε α} {f : ε → ε'} {value : α}
    (h : outcome.mapError f = .ok value) : outcome = .ok value := by
  cases outcome with
  | error e => cases h
  | ok first =>
    cases h
    rfl

theorem eq_ok_of_toOption {outcome : Except ε α} {value : α}
    (h : outcome.toOption = some value) : outcome = .ok value := by
  cases outcome with
  | error e => cases h
  | ok first =>
    cases h
    rfl

theorem mapError_bind_congr {outcome outcome' : Except ε α} {next next' : α → Except ε β}
    {f : ε → ε'} (h : outcome.mapError f = outcome'.mapError f)
    (hnext : ∀ value, (next value).mapError f = (next' value).mapError f) :
    (outcome >>= next).mapError f = (outcome' >>= next').mapError f := by
  cases outcome with
  | error e =>
    cases outcome' with
    | error e' => exact congrArg Except.error (Except.error.inj h)
    | ok value' => cases h
  | ok value =>
    cases outcome' with
    | error e' => cases h
    | ok value' =>
      cases h
      exact hnext value

theorem eq_iff_of_exists {actual : α} {Describes : α → Prop}
    (hexists : ∃ outcome, Describes outcome)
    (heq : ∀ outcome, Describes outcome → actual = outcome) (outcome : α) :
    actual = outcome ↔ Describes outcome := by
  constructor
  · rintro rfl
    obtain ⟨outcome, h⟩ := hexists
    rwa [heq outcome h]
  · exact heq outcome

/-! ## Lists -/

section

variable {test : β → Except ε Bool} {f : α → β} {p : α → Bool} {l : List α}

theorem filterAuxM_map_eq_ok (h : ∀ x ∈ l, test (f x) = .ok (p x)) (kept : List β) :
    (l.map f).filterAuxM test kept = .ok (((l.filter p).map f).reverse ++ kept) := by
  induction l generalizing kept with
  | nil => rfl
  | cons x l ih =>
    rw [List.forall_mem_cons] at h
    rw [List.map_cons, List.filterAuxM, h.1]
    show (l.map f).filterAuxM test (cond (p x) (f x :: kept) kept) = _
    rw [ih h.2]
    cases hp : p x with
    | false => rw [List.filter_cons_of_neg (by simp [hp]), cond_false]
    | true =>
      rw [List.filter_cons_of_pos hp, List.map_cons, List.reverse_cons, List.append_assoc]
      rfl

/-- A test that cannot fail selects what it holds of. -/
theorem filterM_map_eq_ok (h : ∀ x ∈ l, test (f x) = .ok (p x)) :
    (l.map f).filterM test = .ok ((l.filter p).map f) := by
  rw [List.filterM, filterAuxM_map_eq_ok h]
  show Except.ok (((l.filter p).map f).reverse ++ []).reverse = _
  rw [List.append_nil, List.reverse_reverse]

variable {before after : List β} {x : β} {e : ε}

theorem filterAuxM_append_eq_error (h : ∀ y ∈ before, ∃ selected, test y = .ok selected)
    (hx : test x = .error e) (kept : List β) :
    (before ++ x :: after).filterAuxM test kept = .error e := by
  induction before generalizing kept with
  | nil =>
    rw [List.nil_append, List.filterAuxM, hx]
    rfl
  | cons y before ih =>
    rw [List.forall_mem_cons] at h
    obtain ⟨selected, hy⟩ := h.1
    rw [List.cons_append, List.filterAuxM, hy]
    exact ih h.2 (cond selected (y :: kept) kept)

theorem filterM_append_eq_error (h : ∀ y ∈ before, ∃ selected, test y = .ok selected)
    (hx : test x = .error e) : (before ++ x :: after).filterM test = .error e := by
  rw [List.filterM, filterAuxM_append_eq_error h hx]
  rfl

end

variable {f : α → Except ε β}

theorem exists_mapM_eq_ok {R : α → β → Prop} {l : List α}
    (h : ∀ x ∈ l, ∃ y, f x = .ok y ∧ R x y) : ∃ ys, l.mapM f = .ok ys ∧ List.Forall₂ R l ys := by
  induction l with
  | nil => exact ⟨[], rfl, .nil⟩
  | cons x l ih =>
    rw [List.forall_mem_cons] at h
    obtain ⟨y, hy, hR⟩ := h.1
    obtain ⟨ys, hys, hrest⟩ := ih h.2
    refine ⟨y :: ys, ?_, .cons hR hrest⟩
    rw [List.mapM_cons, hy, hys]
    rfl

theorem mapM_append_eq_error {before after : List α} {x : α} {e : ε}
    (h : ∀ y ∈ before, ∃ value, f y = .ok value) (hx : f x = .error e) :
    (before ++ x :: after).mapM f = .error e := by
  induction before with
  | nil =>
    rw [List.nil_append, List.mapM_cons, hx]
    rfl
  | cons y before ih =>
    rw [List.forall_mem_cons] at h
    obtain ⟨value, hy⟩ := h.1
    rw [List.cons_append, List.mapM_cons, hy, ih h.2]
    rfl

end PromptTemplate
