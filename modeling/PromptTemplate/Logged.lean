import PromptTemplate.Failure
import PromptTemplate.Log.Entry
/-!
# Runs that log

A logged run has entries and a result, which may be a failure. What was logged before a failure
stays. Whether anyone reads the entries makes no difference to a run.
-/

namespace PromptTemplate

/-- The entries that a run logs, and its result. -/
structure Logged (α : Type) where
  log : List LogEntry
  result : Except Failure α

namespace Logged

variable {α β γ : Type}

/-- A result without entries. -/
def ok (value : α) : Logged α := ⟨[], .ok value⟩

/-- A failure without entries. -/
def fail (failure : Failure) : Logged α := ⟨[], .error failure⟩

/-- Nothing but an entry. -/
def entry (e : LogEntry) : Logged Unit := ⟨[e], .ok ()⟩

/-- One run and then another that is given its result. -/
def bind (run : Logged α) (next : α → Logged β) : Logged β :=
  match run.result with
  | .ok value => ⟨run.log ++ (next value).log, (next value).result⟩
  | .error failure => ⟨run.log, .error failure⟩

instance : Monad Logged where
  pure := ok
  bind := bind

/-- A computation without entries. -/
def ofExcept (result : Except Failure α) : Logged α := ⟨[], result⟩

/-! ## Facts -/

@[simp] theorem pure_eq_ok (value : α) : (pure value : Logged α) = ok value := rfl

@[simp] theorem bind_eq (run : Logged α) (next : α → Logged β) : run >>= next = bind run next := rfl

@[simp] theorem ok_bind (value : α) (next : α → Logged β) : bind (ok value) next = next value := by
  simp [bind, ok]

@[simp] theorem fail_bind (failure : Failure) (next : α → Logged β) :
    bind (fail failure) next = fail failure := rfl

@[simp] theorem bind_ok (run : Logged α) : bind run ok = run := by
  obtain ⟨log, result⟩ := run
  cases result <;> simp [bind, ok]

theorem bind_assoc (run : Logged α) (f : α → Logged β) (g : β → Logged γ) :
    bind (bind run f) g = bind run fun value => bind (f value) g := by
  obtain ⟨log, result⟩ := run
  cases result with
  | error failure => rfl
  | ok value =>
    simp only [bind]
    cases h : (f value).result <;> simp

instance : LawfulMonad Logged :=
  LawfulMonad.mk' Logged (fun run => bind_ok run) (fun value next => ok_bind value next)
    (fun run f g => bind_assoc run f g)

theorem map_eq (f : α → β) (run : Logged α) : f <$> run = ⟨run.log, f <$> run.result⟩ := by
  obtain ⟨log, result⟩ := run
  cases result with
  | error failure => rfl
  | ok value =>
    show Logged.mk (log ++ []) _ = _
    rw [List.append_nil]
    rfl

/-- Two runs that agree on all that is used of their values go on in the same way. -/
theorem bind_eq_of_map_eq {f : α → β} {run run' : Logged α} {next next' : α → Logged γ}
    (h : f <$> run = f <$> run')
    (hnext : ∀ value value', f value = f value' → next value = next' value') :
    run >>= next = run' >>= next' := by
  rw [map_eq, map_eq, Logged.mk.injEq] at h
  obtain ⟨log, result⟩ := run
  obtain ⟨log', result'⟩ := run'
  obtain ⟨hlog, hresult⟩ : log = log' ∧ f <$> result = f <$> result' := h
  subst hlog
  cases result with
  | error failure => cases result' <;> cases hresult; rfl
  | ok value =>
    cases result' with
    | error failure => cases hresult
    | ok value' =>
      have hvalue := hnext value value' (Except.ok.inj hresult)
      show Logged.mk _ _ = Logged.mk _ _
      rw [hvalue]

end Logged

end PromptTemplate
