import ProseLinter.Engine.Basic

/-!
# Running the steps of an engine

How the steps of an engine run, piece by piece: a step that fails leaves the state in which it
failed, and what follows it does not run.

* `exec_bind` : a step is run before the one that follows it.
* `exec_bind_eq_ok_iff` : steps succeed one after the other when each of them does.
-/

namespace ProseLinter.Engine

variable {α β : Type}

@[simp]
theorem exec_pure (a : α) (s : State) : exec (pure a) s = (.ok a, s) :=
  rfl

@[simp]
theorem exec_throw (e : LintError) (s : State) : exec (throw e : Step α) s = (.error e, s) :=
  rfl

@[simp]
theorem exec_get (s : State) : exec get s = (.ok s, s) :=
  rfl

@[simp]
theorem exec_modify (f : State → State) (s : State) : exec (modify f) s = (.ok ⟨⟩, f s) :=
  rfl

/-- A step is run before the one that follows it, which does not run if it fails. -/
theorem exec_bind (step : Step α) (next : α → Step β) (s : State) :
    exec (step >>= next) s =
      match exec step s with
      | (.ok a, s') => exec (next a) s'
      | (.error e, s') => (.error e, s') := by
  unfold exec ExceptT.run
  simp only [bind, ExceptT.bind, ExceptT.mk, StateT.bind, ExceptT.bindCont]
  rcases step s with ⟨e | a, s'⟩ <;> rfl

theorem exec_bind_of_ok {step : Step α} {s s' : State} {a : α} (h : exec step s = (.ok a, s'))
    (next : α → Step β) : exec (step >>= next) s = exec (next a) s' := by
  rw [exec_bind, h]

theorem exec_bind_of_error {step : Step α} {s s' : State} {e : LintError}
    (h : exec step s = (.error e, s')) (next : α → Step β) :
    exec (step >>= next) s = (.error e, s') := by
  rw [exec_bind, h]

/-- Two steps succeed one after the other when each of them does. -/
theorem exec_bind_eq_ok_iff {step : Step α} {next : α → Step β} {s s' : State} {b : β} :
    exec (step >>= next) s = (.ok b, s') ↔
      ∃ a s₁, exec step s = (.ok a, s₁) ∧ exec (next a) s₁ = (.ok b, s') := by
  constructor
  · intro h
    rw [exec_bind] at h
    split at h
    · next a s₁ hstep => exact ⟨a, s₁, hstep, h⟩
    · cases h
  · rintro ⟨a, s₁, hstep, hnext⟩
    rw [exec_bind_of_ok hstep, hnext]

/-- What is done with the result of a step does not change how the step runs. -/
theorem exec_map (f : α → β) (step : Step α) (s : State) :
    exec (f <$> step) s = ((exec step s).1.map f, (exec step s).2) := by
  rw [map_eq_pure_bind, exec_bind]
  rcases exec step s with ⟨err | a, s'⟩ <;> rfl

end ProseLinter.Engine
