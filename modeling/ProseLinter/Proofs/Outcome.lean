import Mathlib.Data.List.Forall2

/-!
# Outcomes of steps that may fail

When a step that is made of others has succeeded, each of these has, and what they came to is what
the whole goes on from.

* `exists_of_bind_eq_ok` and `exists_of_map_eq_ok` : the steps of a step that has succeeded.
* `exists_of_mapError_eq_error` : the error that was given another form.
* `exists_eq_ok_of_mem_mapM` : so have the steps for all items of a list.
* `map_eq_of_mapM` and `of_foldlM` : what every step keeps is kept by all steps together.
* `forall₂_of_mapM` and `mapM_eq_error_iff` : the results of a list of steps, one by one, and the
  first of them that fails.
* `eq_error_or_of_bind_eq_error`, `exists_eq_error_of_mapM` and `exists_eq_error_of_foldlM` : the
  step that made the whole fail.
-/

namespace ProseLinter

variable {ε ε' α β : Type}

theorem eq_ok_of_toOption {x : Except ε α} {a : α} (h : x.toOption = some a) : x = .ok a := by
  cases x with
  | error err => cases h
  | ok b => exact congrArg Except.ok (Option.some.inj h)

theorem exists_of_bind_eq_ok {x : Except ε α} {f : α → Except ε β} {b : β}
    (h : x >>= f = .ok b) : ∃ a, x = .ok a ∧ f a = .ok b := by
  cases x with
  | error err => cases h
  | ok a => exact ⟨a, rfl, h⟩

/-- A step that has failed has failed in its first part or in the one after it. -/
theorem eq_error_or_of_bind_eq_error {x : Except ε α} {f : α → Except ε β} {err : ε}
    (h : x >>= f = .error err) : x = .error err ∨ ∃ a, x = .ok a ∧ f a = .error err := by
  cases x with
  | error err' => exact .inl (congrArg Except.error (Except.error.inj h))
  | ok a => exact .inr ⟨a, rfl, h⟩

theorem exists_of_map_eq_ok {x : Except ε α} {f : α → β} {b : β} (h : x.map f = .ok b) :
    ∃ a, x = .ok a ∧ f a = b := by
  cases x with
  | error err => cases h
  | ok a => exact ⟨a, rfl, Except.ok.inj h⟩

theorem eq_error_of_map {x : Except ε α} {f : α → β} {err : ε} (h : x.map f = .error err) :
    x = .error err := by
  cases x with
  | error err' => exact congrArg Except.error (Except.error.inj h)
  | ok a => cases h

theorem eq_ok_of_mapError {x : Except ε α} {f : ε → ε'} {a : α} (h : x.mapError f = .ok a) :
    x = .ok a := by
  cases x with
  | error err => cases h
  | ok b => exact congrArg Except.ok (Except.ok.inj h)

theorem exists_of_mapError_eq_error {x : Except ε α} {f : ε → ε'} {err : ε'}
    (h : x.mapError f = .error err) : ∃ err', x = .error err' ∧ f err' = err := by
  cases x with
  | error err' => exact ⟨err', rfl, Except.error.inj h⟩
  | ok a => cases h

/-- A list of steps fails for the first of its steps that fails. -/
theorem mapM_eq_error_iff {f : α → Except ε β} {items : List α} {err : ε} :
    items.mapM f = .error err ↔
      ∃ before a after, items = before ++ a :: after ∧ (∀ x ∈ before, ∃ b, f x = .ok b) ∧
        f a = .error err := by
  induction items with
  | nil => simp [pure, Except.pure]
  | cons x items ih =>
    rw [List.mapM_cons]
    constructor
    · intro h
      rcases eq_error_or_of_bind_eq_error h with h | ⟨b, hb, h⟩
      · exact ⟨[], x, items, rfl, List.forall_mem_nil _, h⟩
      · rcases eq_error_or_of_bind_eq_error h with h | ⟨rest, -, h⟩
        · obtain ⟨before, a, after, rfl, hbefore, ha⟩ := ih.1 h
          exact ⟨x :: before, a, after, rfl, List.forall_mem_cons.2 ⟨⟨b, hb⟩, hbefore⟩, ha⟩
        · cases h
    · rintro ⟨before, a, after, hitems, hbefore, ha⟩
      cases before with
      | nil =>
        obtain ⟨rfl, -⟩ := List.cons.inj hitems
        rw [ha]
        rfl
      | cons y before =>
        obtain ⟨rfl, rfl⟩ := List.cons.inj hitems
        obtain ⟨⟨b, hb⟩, hbefore⟩ := List.forall_mem_cons.1 hbefore
        rw [hb, ih.2 ⟨before, a, after, rfl, hbefore, ha⟩]
        rfl

/-- Whatever made a list of steps fail, one of the steps failed for it. -/
theorem exists_eq_error_of_mapM {f : α → Except ε β} {items : List α} {err : ε}
    (h : items.mapM f = .error err) : ∃ a ∈ items, f a = .error err := by
  obtain ⟨before, a, after, rfl, -, ha⟩ := mapM_eq_error_iff.1 h
  exact ⟨a, List.mem_append_cons_self, ha⟩

/-- Whatever made a run through a list fail, the step at one of its items failed for it. -/
theorem exists_eq_error_of_foldlM {f : β → α → Except ε β} {items : List α} {start : β} {err : ε}
    (h : items.foldlM f start = .error err) : ∃ b, ∃ a ∈ items, f b a = .error err := by
  induction items generalizing start with
  | nil => cases h
  | cons a items ih =>
    rw [List.foldlM_cons] at h
    rcases eq_error_or_of_bind_eq_error h with h | ⟨b, -, h⟩
    · exact ⟨start, a, List.mem_cons_self, h⟩
    · obtain ⟨b', a', ha', hf⟩ := ih h
      exact ⟨b', a', List.mem_cons_of_mem a ha', hf⟩

/-- When a list of steps has succeeded, each of them has. -/
theorem exists_eq_ok_of_mapM {f : α → Except ε β} {items : List α} {out : List β}
    (h : items.mapM f = .ok out) : ∀ a ∈ items, ∃ b, f a = .ok b := by
  induction items generalizing out with
  | nil => simp
  | cons a items ih =>
    rw [List.mapM_cons] at h
    obtain ⟨b, hb, h⟩ := exists_of_bind_eq_ok h
    obtain ⟨rest, hrest, -⟩ := exists_of_bind_eq_ok h
    exact List.forall_mem_cons.2 ⟨⟨b, hb⟩, ih hrest⟩

/-- Whatever a list of steps came to, one of the steps came to it. -/
theorem exists_eq_ok_of_mem_mapM {f : α → Except ε β} {items : List α} {out : List β}
    (h : items.mapM f = .ok out) : ∀ b ∈ out, ∃ a ∈ items, f a = .ok b := by
  induction items generalizing out with
  | nil =>
    cases h
    simp
  | cons a items ih =>
    rw [List.mapM_cons] at h
    obtain ⟨b, hb, h⟩ := exists_of_bind_eq_ok h
    obtain ⟨rest, hrest, h⟩ := exists_of_bind_eq_ok h
    cases h
    intro b' hb'
    rcases List.mem_cons.1 hb' with rfl | hb'
    · exact ⟨a, List.mem_cons_self, hb⟩
    · obtain ⟨a', ha', hfa'⟩ := ih hrest b' hb'
      exact ⟨a', List.mem_cons_of_mem a ha', hfa'⟩

/-- When a list of steps has succeeded and each of them keeps something of its item, so does the
list. -/
theorem map_eq_of_mapM {γ : Type} {f : α → Except ε β} {g : β → γ} {g' : α → γ} {items : List α}
    {out : List β} (h : items.mapM f = .ok out) (hstep : ∀ a b, f a = .ok b → g b = g' a) :
    out.map g = items.map g' := by
  induction items generalizing out with
  | nil =>
    cases h
    rfl
  | cons a items ih =>
    rw [List.mapM_cons] at h
    obtain ⟨b, hb, h⟩ := exists_of_bind_eq_ok h
    obtain ⟨rest, hrest, h⟩ := exists_of_bind_eq_ok h
    cases h
    rw [List.map_cons, List.map_cons, hstep a b hb, ih hrest]

/-- A list of steps that succeeds comes to what its steps come to, one by one. -/
theorem forall₂_of_mapM {f : α → Except ε β} {items : List α} {out : List β}
    (h : items.mapM f = .ok out) : List.Forall₂ (fun a b => f a = .ok b) items out := by
  induction items generalizing out with
  | nil =>
    cases h
    exact .nil
  | cons a items ih =>
    rw [List.mapM_cons] at h
    obtain ⟨b, hb, h⟩ := exists_of_bind_eq_ok h
    obtain ⟨rest, hrest, h⟩ := exists_of_bind_eq_ok h
    cases h
    exact .cons hb (ih hrest)

/-- When the steps for all items of a list succeed, what they come to is what the list comes to. -/
theorem mapM_eq_ok_map {f : α → Except ε β} {g : α → β} {items : List α}
    (h : ∀ a ∈ items, f a = .ok (g a)) : items.mapM f = .ok (items.map g) := by
  induction items with
  | nil => rfl
  | cons a items ih =>
    rw [List.forall_mem_cons] at h
    rw [List.mapM_cons, h.1, ih h.2]
    rfl

end ProseLinter
