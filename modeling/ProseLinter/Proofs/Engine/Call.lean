import ProseLinter.Proofs.Engine.Requests

/-!
# The calls of an engine

What a caller can ask of an engine: to set it up, to add a rule, to lint, and to empty the registry.
Every call but a reset only adds to the registry. An engine that such a call leaves set up is either
one that was set up before, or the registry now provides all its requests.

* `grows_call` : what a call that is no reset does to the engine and its registry.
* `exec_lint` : linting sets the engine up first, and lints with the registry that this leaves.
-/

namespace ProseLinter.Engine

/-- What is linted: files, or a text of an extension. -/
inductive Target where
  | files (paths : List Path)
  | text (content extension : String)

/-- The results for a target, with the rules of a registry and the options of an engine. -/
def Target.results (files : FileTree) (s : State) : Target → List FileResult
  | .files paths => Executor.executeOnFiles files s.engine.parsers (activeRules s) paths
  | .text content extension =>
    Executor.executeOnText s.engine.parsers (activeRules s) content extension

/-- Lints a target. -/
def lint (files : FileTree) : Target → Step (List FileResult)
  | .files paths => executeOnFiles files paths
  | .text content extension => executeOnText files content extension

/-- A call of an engine. -/
inductive Call where
  | setUp
  | addRule (spec : Specifier)
  | lint (target : Target)
  | reset

/-- What a call that succeeded gives back. -/
inductive Answer where
  | done
  | added (name : String)
  | results (results : List FileResult)

/-- The step that a call runs. -/
def Call.step (files : FileTree) : Call → Step Answer
  | .setUp => (fun _ => .done) <$> Engine.setUp files
  | .addRule spec => .added <$> Engine.addRule files spec
  | .lint target => .results <$> Engine.lint files target
  | .reset => (fun _ => .done) <$> Engine.reset

/-- The rules that a call adds for good: the one of a successful call to add it. -/
def Call.accepted : Call → Except LintError Answer → List Specifier
  | .addRule spec, .ok _ => [spec]
  | _, _ => []

@[simp]
theorem Call.accepted_reset (a : Except LintError Answer) : Call.accepted .reset a = [] :=
  rfl

/-- What a call that is no reset does to an engine and its registry. The registry only gains names.
The engine gains the rules that were added for good. If it is set up afterwards, then each of its
requests either was one of an engine that was set up before, or is now provided. -/
structure Grows (files : FileTree) (s s' : State) (new : List Specifier) : Prop where
  registry_extends : s.registry.Extends s'.registry
  engine_eq : s'.engine =
    { s.engine with added := s.engine.added ++ new, isSetUp := s'.engine.isSetUp }
  isSetUp (h : s.engine.isSetUp = true) : s'.engine.isSetUp = true
  provides (h : s'.engine.isSetUp = true) : ∀ q ∈ s'.engine.requests files,
    (s.engine.isSetUp = true ∧ q ∈ s.engine.requests files) ∨
      ∃ x, q = .ok x ∧ s'.registry.Provides x

variable {files : FileTree} {s s' : State}

/-! ### Setting up -/

/-- A call that changes nothing adds nothing. -/
theorem grows_refl (s : State) : Grows files s s [] where
  registry_extends := .refl _
  engine_eq := by rw [List.append_nil]
  isSetUp h := h
  provides h _ hq := .inl ⟨h, hq⟩

/-- Setting an engine up adds rules to the registry, and if it succeeds the engine is set up. -/
theorem grows_setUp (files : FileTree) (s : State) :
    Grows files s (exec (setUp files) s).2 [] ∧
      ∀ a, (exec (setUp files) s).1 = .ok a → (exec (setUp files) s).2.engine.isSetUp = true := by
  cases hs : s.engine.isSetUp with
  | true =>
    rw [exec_setUp_of_isSetUp hs]
    exact ⟨grows_refl s, fun _ _ => hs⟩
  | false =>
    have hextends := Registry.extends_serve s.registry (s.engine.requests files)
    rcases hserve : s.registry.serve (s.engine.requests files) with ⟨err | ⟨⟩, r'⟩
    · -- Some rules may have been registered, but the engine is as it was: not set up.
      rw [hserve] at hextends
      rw [show s = ⟨s.engine, s.registry⟩ from rfl, exec_setUp_of_serve_error hs hserve]
      refine ⟨⟨hextends, by rw [List.append_nil], id, fun h => ?_⟩, ?_⟩
      · rw [hs] at h
        cases h
      · rintro a ⟨⟩
    · rw [hserve] at hextends
      rw [show s = ⟨s.engine, s.registry⟩ from rfl, exec_setUp_of_serve_ok hs hserve]
      refine ⟨⟨hextends, by rw [List.append_nil], fun _ => rfl, ?_⟩, fun _ _ => rfl⟩
      intro _ q hq
      exact .inr (Registry.provides_of_serve hserve q hq)

/-! ### Adding a rule -/

/-- What grows the registry further without touching the engine can be done after a call. -/
theorem Grows.trans_registry {new : List Specifier} (h : Grows files s s' new) {r : Registry}
    (hr : s'.registry.Extends r) : Grows files s ⟨s'.engine, r⟩ new where
  registry_extends := h.registry_extends.trans hr
  engine_eq := h.engine_eq
  isSetUp := h.isSetUp
  provides hs q hq := by
    rcases h.provides hs q hq with hold | ⟨x, hx, hprovided⟩
    · exact .inl hold
    · exact .inr ⟨x, hx, hprovided.mono hr⟩

/-- The request for a rule that was added comes last. -/
theorem requests_push (files : FileTree) (e : Engine) (spec : Specifier) :
    requests files { e with added := e.added ++ [spec] } =
      e.requests files ++ [e.ruleRequest files spec] := by
  change e.configuredRequests files ++
    (e.added ++ [spec]).flatMap (fun spec => [e.ruleRequest files spec]) = _
  rw [List.flatMap_append, requests, List.append_assoc]
  rfl

/-- A rule whose request is provided can be added for good. -/
theorem Grows.trans_added (h : Grows files s s' []) {spec : Specifier} {x : RuleEntry}
    (hx : s'.engine.ruleRequest files spec = .ok x) (hprovided : s'.registry.Provides x) :
    Grows files s ⟨{ s'.engine with added := s'.engine.added ++ [spec] }, s'.registry⟩ [spec] where
  registry_extends := h.registry_extends
  engine_eq := by
    rw [h.engine_eq, List.append_nil]
  isSetUp := h.isSetUp
  provides hs q hq := by
    rw [requests_push, List.mem_append, List.mem_singleton] at hq
    rcases hq with hold | rfl
    · exact h.provides hs q hold
    · exact .inr ⟨x, hx, hprovided⟩

/-- Adding a rule sets the engine up, and grows the registry by the rule if this succeeded. -/
theorem grows_addRule (s : State) (spec : Specifier) :
    Grows files s (exec (Call.step files (.addRule spec)) s).2
      (Call.accepted (.addRule spec) (exec (Call.step files (.addRule spec)) s).1) := by
  rw [Call.step, exec_map]
  obtain ⟨hgrows, -⟩ := grows_setUp files s
  rcases hsetUp : exec (setUp files) s with ⟨err | ⟨⟩, s₁⟩
  · rw [hsetUp] at hgrows
    rw [addRule, exec_bind_of_error hsetUp]
    exact hgrows
  rw [hsetUp] at hgrows
  -- The rule is loaded, and only if this succeeds it is added for good.
  have hload : Serves (loadRule files spec) s₁.engine s₁.registry
      [s₁.engine.ruleRequest files spec] := serves_loadRule s₁.registry spec
  have hr := Registry.extends_serve s₁.registry [s₁.engine.ruleRequest files spec]
  rw [addRule, exec_bind_of_ok hsetUp]
  rcases hserve : s₁.registry.serve [s₁.engine.ruleRequest files spec] with ⟨err | ⟨⟩, r₂⟩
  · rw [exec_bind_of_error (hload.error hserve)]
    rw [hserve] at hr
    exact hgrows.trans_registry hr
  · obtain ⟨name, hname⟩ := hload.ok hserve
    obtain ⟨x, hx, hprovided⟩ := Registry.provides_of_serve hserve _ (List.mem_singleton_self _)
    rw [hserve] at hr
    rw [exec_bind_of_ok hname, exec_bind_of_ok (exec_modify _ _)]
    exact (hgrows.trans_registry hr).trans_added hx hprovided

/-- Once the engine is set up, adding a rule serves the request for it. -/
theorem registry_exec_addRule (h : exec (setUp files) s = (.ok (), s')) (spec : Specifier) :
    (exec (addRule files spec) s).2.registry =
      (s'.registry.serve [s'.engine.ruleRequest files spec]).2 := by
  have hload : Serves (loadRule files spec) s'.engine s'.registry
      [s'.engine.ruleRequest files spec] := serves_loadRule s'.registry spec
  rw [addRule, exec_bind_of_ok h]
  rcases hserve : s'.registry.serve [s'.engine.ruleRequest files spec] with ⟨err | ⟨⟩, r⟩
  · rw [exec_bind_of_error (hload.error hserve)]
  · obtain ⟨name, hname⟩ := hload.ok hserve
    rw [exec_bind_of_ok hname, exec_bind_of_ok (exec_modify _ _)]
    rfl

/-! ### Linting -/

/-- Linting sets the engine up first, and lints with the registry that this leaves. -/
theorem exec_lint (target : Target) (s : State) :
    exec (lint files target) s =
      ((exec (setUp files) s).1.map fun _ => target.results files (exec (setUp files) s).2,
        (exec (setUp files) s).2) := by
  rcases hsetUp : exec (setUp files) s with ⟨err | ⟨⟩, s₁⟩
  · cases target <;> exact exec_bind_of_error hsetUp _
  · cases target <;> exact (exec_bind_of_ok hsetUp _).trans (exec_bind_of_ok (exec_get s₁) _)

/-! ### All calls -/

/-- A call that is no reset grows the registry by what it adds. -/
theorem grows_call (s : State) {c : Call} (hc : c ≠ .reset) :
    Grows files s (exec (c.step files) s).2 (c.accepted (exec (c.step files) s).1) := by
  cases c with
  | setUp =>
    rw [Call.step, exec_map]
    exact (grows_setUp files s).1
  | addRule spec => exact grows_addRule s spec
  | lint target =>
    rw [Call.step, exec_map, exec_lint]
    exact (grows_setUp files s).1
  | reset => exact absurd rfl hc

/-- A call keeps the configuration of an engine. -/
theorem config_call (c : Call) (s : State) :
    (exec (c.step files) s).2.engine.config = s.engine.config := by
  by_cases hc : c = .reset
  · subst hc
    rfl
  · exact congrArg (·.config) (grows_call s hc).engine_eq

/-- A call that sets the engine up does what it does once the engine is set up. -/
theorem exec_call_of_exec_setUp {c : Call} (hc : c ≠ .reset)
    (h : exec (setUp files) s = (.ok (), s')) : exec (c.step files) s = exec (c.step files) s' := by
  have hset : s'.engine.isSetUp = true := by
    obtain ⟨-, hset⟩ := grows_setUp files s
    rw [h] at hset
    exact hset () rfl
  have hidle : exec (setUp files) s' = (.ok (), s') := exec_setUp_of_isSetUp hset
  cases c with
  | setUp => rw [Call.step, exec_map, exec_map, h, hidle]
  | addRule spec =>
    rw [Call.step, exec_map, exec_map, addRule, exec_bind_of_ok h, exec_bind_of_ok hidle]
  | lint target => rw [Call.step, exec_map, exec_map, exec_lint, exec_lint, h, hidle]
  | reset => exact absurd rfl hc

/-- A call fails as setting the engine up does. -/
theorem exec_call_of_exec_setUp_error {c : Call} (hc : c ≠ .reset) {err : LintError}
    (h : exec (setUp files) s = (.error err, s')) :
    exec (c.step files) s = (.error err, s') := by
  cases c with
  | setUp => rw [Call.step, exec_map, h]; rfl
  | addRule spec => rw [Call.step, exec_map, addRule, exec_bind_of_error h]; rfl
  | lint target => rw [Call.step, exec_map, exec_lint, h]; rfl
  | reset => exact absurd rfl hc

/-- A reset empties the registry and leaves the engine to be set up again. -/
theorem exec_reset (s : State) :
    exec (Call.step files .reset) s = (.ok .done, ⟨{ s.engine with isSetUp := false }, .empty⟩) :=
  rfl

end ProseLinter.Engine
