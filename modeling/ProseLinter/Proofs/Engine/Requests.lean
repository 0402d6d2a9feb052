import ProseLinter.Proofs.Engine.Step
import ProseLinter.Proofs.Registry.Requests

/-!
# What an engine asks of its registry

An engine finds its rules without looking at the registry. What it registers is therefore fixed by
its configuration, its added rules and the files: a list of requests, in the order in which the
engine makes them. `Serves` says that a step of an engine does to the registry exactly what serving
a list of requests does, and nothing else.

* `serves_loadRule`, `serves_loadDirectory` and `serves_loadPlugin` : the requests of each load.
* `exec_setUp_of_serve_ok` and `exec_setUp_of_serve_error` : an engine that is not set up serves all
  its requests in order, and is set up if all of them were served.
-/

namespace ProseLinter.Engine

variable {α β : Type} {files : FileTree} {e : Engine}

/-- The request for the rule of a specifier. -/
def ruleRequest (files : FileTree) (e : Engine) (spec : Specifier) : Request :=
  (e.resolver.resolve files e.base? spec).map e.entry

/-- The requests for the rules of a directory. -/
def directoryRequests (files : FileTree) (e : Engine) (dir : Path) : List Request :=
  match Resolver.resolveDirectory files dir with
  | .ok found => found.map fun f => .ok (e.entry f)
  | .error err => [.error err]

/-- The requests for the rules of a plugin. -/
def pluginRequests (files : FileTree) (e : Engine) (text : String) : List Request :=
  match Plugins.resolve files e.pluginHome e.base? text with
  | .ok b => (Plugins.entries b).map .ok
  | .error err => [.error err]

/-- The requests for the rules, directories and plugins that the configuration names. -/
def configuredRequests (files : FileTree) (e : Engine) : List Request :=
  e.config.rules.flatMap (fun text => [e.ruleRequest files (.ofText text)]) ++
    (e.config.rulePaths.flatMap (e.directoryRequests files) ++
      e.config.plugins.flatMap (e.pluginRequests files))

/-- All requests of an engine in order: the configured ones, then those for the added rules. -/
def requests (files : FileTree) (e : Engine) : List Request :=
  e.configuredRequests files ++ e.added.flatMap fun spec => [e.ruleRequest files spec]

/-- The request for a rule is for the entry of the rule that is found. -/
theorem ruleRequest_eq_ok_iff {spec : Specifier} {x : RuleEntry} :
    e.ruleRequest files spec = .ok x ↔
      ∃ found, e.resolver.resolve files e.base? spec = .ok found ∧ e.entry found = x := by
  rw [ruleRequest]
  cases e.resolver.resolve files e.base? spec <;> simp [Except.map]

/-- An entry that a configuration asks for is that of a rule that it names, of a module of one of its
directories, or of a rule of one of its plugins. -/
theorem mem_configuredRequests_cases {x : RuleEntry} (h : .ok x ∈ e.configuredRequests files) :
    (∃ text found, e.resolver.resolve files e.base? (.ofText text) = .ok found ∧
        e.entry found = x) ∨
      (∃ dir all found, Resolver.resolveDirectory files dir = .ok all ∧ found ∈ all ∧
        e.entry found = x) ∨
      ∃ text b, Plugins.resolve files e.pluginHome e.base? text = .ok b ∧
        x ∈ Plugins.entries b := by
  rw [configuredRequests, List.mem_append, List.mem_append] at h
  rcases h with hrule | hdirectory | hplugin
  · obtain ⟨text, -, hx⟩ := List.mem_flatMap.1 hrule
    obtain ⟨found, hfound, rfl⟩ := ruleRequest_eq_ok_iff.1 (List.mem_singleton.1 hx).symm
    exact .inl ⟨text, found, hfound, rfl⟩
  · obtain ⟨dir, -, hx⟩ := List.mem_flatMap.1 hdirectory
    rw [directoryRequests] at hx
    cases hall : Resolver.resolveDirectory files dir with
    | error err => rw [hall, List.mem_singleton] at hx; cases hx
    | ok all =>
      rw [hall] at hx
      obtain ⟨found, hfound, heq⟩ := List.mem_map.1 hx
      exact .inr (.inl ⟨dir, all, found, hall, hfound, Except.ok.inj heq⟩)
  · obtain ⟨text, -, hx⟩ := List.mem_flatMap.1 hplugin
    rw [pluginRequests] at hx
    cases hb : Plugins.resolve files e.pluginHome e.base? text with
    | error err => rw [hb, List.mem_singleton] at hx; cases hx
    | ok b =>
      rw [hb] at hx
      obtain ⟨y, hy, heq⟩ := List.mem_map.1 hx
      cases heq
      exact .inr (.inr ⟨text, b, hb, hy⟩)

/-- On an engine and a registry a step serves requests: it fails or succeeds as serving them does,
leaves the registry that serving them leaves, and keeps the engine. -/
structure Serves (step : Step α) (e : Engine) (r : Registry) (requests : List Request) :
    Prop where
  ok {r' : Registry} (h : r.serve requests = (.ok (), r')) :
    ∃ a, exec step ⟨e, r⟩ = (.ok a, ⟨e, r'⟩)
  error {r' : Registry} {err : LintError} (h : r.serve requests = (.error err, r')) :
    exec step ⟨e, r⟩ = (.error err, ⟨e, r'⟩)

/-- A step that succeeded has served all its requests. -/
theorem Serves.serve_of_exec {step : Step α} {r : Registry} {requests : List Request} {a : α}
    {s' : State} (h : Serves step e r requests) (hs : exec step ⟨e, r⟩ = (.ok a, s')) :
    ∃ r', r.serve requests = (.ok (), r') ∧ s' = ⟨e, r'⟩ := by
  rcases hserve : r.serve requests with ⟨err | ⟨⟩, r'⟩
  · rw [h.error hserve] at hs
    cases hs
  · obtain ⟨a', ha⟩ := h.ok hserve
    rw [ha] at hs
    cases hs
    exact ⟨r', rfl, rfl⟩

/-- Whether it fails or not, the step leaves what serving the requests leaves. -/
theorem Serves.exec_snd {step : Step α} {s : State} {requests : List Request}
    (h : Serves step s.engine s.registry requests) :
    (exec step s).2 = ⟨s.engine, (s.registry.serve requests).2⟩ := by
  obtain ⟨e, r⟩ := s
  rcases hserve : r.serve requests with ⟨err | ⟨⟩, r'⟩
  · rw [h.error hserve]
  · obtain ⟨a, ha⟩ := h.ok hserve
    rw [ha]

/-! ### Steps one after the other -/

section Steps

variable {r : Registry}

theorem serves_pure (a : α) : Serves (pure a) e r [] where
  ok h := by cases h; exact ⟨a, rfl⟩
  error h := by cases h

theorem serves_throw (err : LintError) : Serves (throw err : Step α) e r [.error err] where
  ok h := by cases h
  error h := by cases h; rfl

/-- Two steps serve the requests of the first, then those of the second. -/
theorem serves_bind {step : Step α} {next : α → Step β} {first second : List Request}
    (hstep : Serves step e r first) (hnext : ∀ a r', Serves (next a) e r' second) :
    Serves (step >>= next) e r (first ++ second) where
  ok {r'} h := by
    rw [Registry.serve_append] at h
    split at h
    · next hfirst =>
      obtain ⟨a, ha⟩ := hstep.ok hfirst
      rw [exec_bind_of_ok ha]
      exact (hnext a _).ok h
    · cases h
  error {r' err} h := by
    rw [Registry.serve_append] at h
    split at h
    · -- The first step succeeds, so the failure is that of the second.
      next hfirst =>
      obtain ⟨a, ha⟩ := hstep.ok hfirst
      rw [exec_bind_of_ok ha]
      exact (hnext a _).error h
    · next hfirst =>
      cases h
      exact exec_bind_of_error (hstep.error hfirst) next

/-- What is done with the result of a step asks for nothing more. -/
theorem serves_map {step : Step α} {requests : List Request} (h : Serves step e r requests)
    (f : α → β) : Serves (f <$> step) e r requests := by
  rw [map_eq_pure_bind, ← List.append_nil requests]
  exact serves_bind h fun a _ => serves_pure (f a)

/-- A step that first looks at the state serves what it serves in the state that it finds. -/
theorem serves_get_bind {next : State → Step α} {requests : List Request}
    (h : Serves (next ⟨e, r⟩) e r requests) : Serves (get >>= next) e r requests where
  ok hr := by
    rw [exec_bind_of_ok (exec_get _)]
    exact h.ok hr
  error hr := by
    rw [exec_bind_of_ok (exec_get _)]
    exact h.error hr

/-- A list of steps serves their requests in order. -/
theorem serves_forM {items : List α} {f : α → Step PUnit} {g : α → List Request}
    (h : ∀ a r', Serves (f a) e r' (g a)) : Serves (items.forM f) e r (items.flatMap g) := by
  induction items generalizing r with
  | nil => exact serves_pure _
  | cons a items ih =>
    rw [List.flatMap_cons]
    exact serves_bind (h a r) fun _ _ => ih

/-- A list of steps whose results are collected serves their requests in order. -/
theorem serves_mapM {items : List α} {f : α → Step β} {g : α → Request}
    (h : ∀ a r', Serves (f a) e r' [g a]) : Serves (items.mapM f) e r (items.map g) := by
  induction items generalizing r with
  | nil => exact serves_pure _
  | cons a items ih =>
    rw [List.mapM_cons, List.map_cons, ← List.singleton_append]
    exact serves_bind (h a r) fun b _ => serves_map ih (b :: ·)

end Steps

/-! ### Loading -/

section Loading

variable (r : Registry)

/-- Registering a rule that was found serves the request for its entry. -/
theorem serves_register (found : ResolvedRule) :
    Serves (register found) e r [.ok (e.entry found)] := by
  refine serves_get_bind ⟨fun {r'} h => ?_, fun {r' err} h => ?_⟩
  · cases hx : r.enter (e.entry found) with
    | error err => rw [Registry.serve_cons_of_enter_eq_error hx] at h; cases h
    | ok out =>
      rw [Registry.serve_cons_of_enter_eq_ok hx] at h
      cases h
      exact ⟨found.name, rfl⟩
  · cases hx : r.enter (e.entry found) with
    | error err' =>
      rw [Registry.serve_cons_of_enter_eq_error hx] at h
      cases h
      exact exec_throw err _
    | ok out => rw [Registry.serve_cons_of_enter_eq_ok hx] at h; cases h

/-- Loading a rule serves the request for it. -/
theorem serves_loadRule (spec : Specifier) :
    Serves (loadRule files spec) e r [e.ruleRequest files spec] := by
  refine serves_get_bind ?_
  rw [ruleRequest]
  cases e.resolver.resolve files e.base? spec with
  | error err => exact serves_throw err
  | ok found => exact serves_register r found

/-- Loading a directory serves the requests for its rules. -/
theorem serves_loadDirectory (dir : Path) :
    Serves (loadDirectory files dir) e r (e.directoryRequests files dir) := by
  unfold loadDirectory directoryRequests
  cases Resolver.resolveDirectory files dir with
  | error err => exact serves_throw err
  | ok found => exact serves_mapM fun f r' => serves_register r' f

/-- Loading a plugin serves the requests for its rules. -/
theorem serves_loadPlugin (text : String) :
    Serves (loadPlugin files text) e r (e.pluginRequests files text) := by
  refine serves_get_bind ?_
  unfold pluginRequests Plugins.load
  cases Plugins.resolve files e.pluginHome e.base? text with
  | error err =>
    refine ⟨fun {r'} h => ?_, fun {r' err'} h => ?_⟩
    · cases h
    · cases h
      rfl
  | ok b =>
    simp only [Registry.enterAll_eq_serve]
    refine ⟨fun {r'} h => ?_, fun {r' err} h => ?_⟩
    · exact ⟨b.names, by simp only [h]; rfl⟩
    · simp only [h]
      rfl

/-- Loading everything serves all requests of the engine. -/
theorem serves_loadAll : Serves (loadAll files) e r (e.requests files) := by
  refine serves_get_bind ?_
  -- The requests are grouped as the loads are: rules, directories, plugins, added rules.
  rw [requests, configuredRequests, List.append_assoc, List.append_assoc]
  refine serves_bind (serves_forM fun text r' => ?_) fun _ r' => ?_
  · exact serves_map (serves_loadRule r' _) _
  refine serves_bind (serves_forM fun dir r' => ?_) fun _ r' => ?_
  · exact serves_map (serves_loadDirectory r' dir) _
  refine serves_bind (serves_forM fun text r' => ?_) fun _ r' => ?_
  · exact serves_map (serves_loadPlugin r' text) _
  · exact serves_forM fun spec r' => serves_map (serves_loadRule r' spec) _

end Loading

/-! ### Setting up -/

/-- An engine that is set up has nothing to do. -/
theorem exec_setUp_of_isSetUp {s : State} (h : s.engine.isSetUp = true) :
    exec (setUp files) s = (.ok (), s) := by
  rw [setUp, exec_bind_of_ok (exec_get s), if_pos h, exec_pure]

/-- An engine whose requests are all served is set up. -/
theorem exec_setUp_of_serve_ok {r r' : Registry} (he : e.isSetUp = false)
    (h : r.serve (e.requests files) = (.ok (), r')) :
    exec (setUp files) ⟨e, r⟩ = (.ok (), ⟨{ e with isSetUp := true }, r'⟩) := by
  obtain ⟨a, ha⟩ := (serves_loadAll r).ok h
  rw [setUp, exec_bind_of_ok (exec_get _), if_neg (by simp [he]), exec_bind_of_ok ha, exec_modify]

/-- An engine one of whose requests fails stays as it was; what was registered before stays. -/
theorem exec_setUp_of_serve_error {r r' : Registry} {err : LintError} (he : e.isSetUp = false)
    (h : r.serve (e.requests files) = (.error err, r')) :
    exec (setUp files) ⟨e, r⟩ = (.error err, ⟨e, r'⟩) := by
  rw [setUp, exec_bind_of_ok (exec_get _), if_neg (by simp [he]),
    exec_bind_of_error ((serves_loadAll r).error h)]

/-- Setting up ends as serving the requests of the engine does. -/
theorem exec_setUp_fst (he : e.isSetUp = false) (r : Registry) :
    (exec (setUp files) ⟨e, r⟩).1 = (r.serve (e.requests files)).1 := by
  rcases hserve : r.serve (e.requests files) with ⟨err | ⟨⟩, r'⟩
  · rw [exec_setUp_of_serve_error he hserve]
  · rw [exec_setUp_of_serve_ok he hserve]

/-- Setting up leaves the registry that serving the requests of the engine leaves. -/
theorem registry_exec_setUp (he : e.isSetUp = false) (r : Registry) :
    (exec (setUp files) ⟨e, r⟩).2.registry = (r.serve (e.requests files)).2 := by
  rcases hserve : r.serve (e.requests files) with ⟨err | ⟨⟩, r'⟩
  · rw [exec_setUp_of_serve_error he hserve]
  · rw [exec_setUp_of_serve_ok he hserve]

/-! ### An engine with one rule -/

/-- The engine of a configuration that names one rule of the catalog. -/
def todoEngine : Engine where
  config := { rules := ["no-todo"] }
  resolver := ⟨.bundled, none⟩
  pluginHome := none
  formatters := .empty
  parsers := Parsers.default.restrict []
  added := []
  isSetUp := false

/-- The entry of that rule. -/
def todoEntry : RuleEntry :=
  ⟨"no-todo", NoTodo.rule, .bundled "kotolint-rule-no-todo", .default⟩

/-- The rule is found in the catalog, whatever files there are. -/
theorem ruleRequest_todoEngine (files : FileTree) :
    todoEngine.ruleRequest files (.ofText "no-todo") = .ok todoEntry := by
  have hname : Naming.looksLikePath "no-todo" = false := by decide +kernel
  have hbare : Naming.normalizeRule "no-todo" = "no-todo" := by decide +kernel
  have hplain : Naming.isPlain "no-todo" = true := by decide +kernel
  simp [ruleRequest, todoEngine, todoEntry, Specifier.ofText, hname, Resolver.resolve,
    Resolver.resolveName, hbare, hplain, Resolver.candidatesIn, Resolver.bundled?, Catalog.get?,
    Catalog.bundled, Naming.rulePrefix, base?, entry, Config.option?, Except.map]

/-- The engine asks for the rule of the catalog. -/
theorem requests_todoEngine : todoEngine.requests files = [.ok todoEntry] := by
  change [todoEngine.ruleRequest files (.ofText "no-todo")] = _
  rw [ruleRequest_todoEngine]

/-- Setting up the engine registers the rule. -/
theorem exec_setUp_todoEngine :
    exec (setUp files) ⟨todoEngine, .empty⟩ =
      (.ok (), ⟨{ todoEngine with isSetUp := true }, Registry.empty.append todoEntry⟩) := by
  refine exec_setUp_of_serve_ok rfl ?_
  rw [requests_todoEngine,
    Registry.serve_cons_of_enter_eq_ok (Registry.enter_of_get?_eq_none (Registry.get?_empty _)),
    Registry.serve]

end ProseLinter.Engine
