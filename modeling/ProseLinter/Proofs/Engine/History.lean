import ProseLinter.Proofs.Engine.Call
import ProseLinter.Proofs.Registry.Newcomers

/-!
# The history of an engine with a registry of its own

An engine that shares its registry with nobody finds in it what it registered itself. When it is set
up, all its requests have been served from the empty registry on, whatever calls succeeded or failed
before, so its registry lists the names that it asks for, each where it came first.

* `wantedNames` : the names that an engine asks for, in order, as its rules are found.
* `OwnsRegistry.call` and `OwnsRegistry.after` : after one call, and so after every history, the
  registry is what the requests of the engine leave.
* `names_after_setUp` : what the registry lists when the engine is set up, and that emptying it and
  setting the engine up again gives it back.
-/

namespace ProseLinter.Engine

variable {files : FileTree} {e : Engine} {s s' : State}

/-- An engine and its registry after calls, made one after the other. -/
def State.after (files : FileTree) (s : State) (calls : List Call) : State :=
  calls.foldl (fun s c => (exec (c.step files) s).2) s

/-- The rules that calls add to an engine for good, in order. -/
def State.gained (files : FileTree) : State → List Call → List Specifier
  | _, [] => []
  | s, c :: calls =>
    let out := exec (c.step files) s
    c.accepted out.1 ++ gained files out.2 calls

/-! ### The names that an engine asks for -/

/-- The canonical name of the rule of a specifier. -/
def ruleNames (files : FileTree) (e : Engine) (spec : Specifier) :
    Except LintError (List String) :=
  (e.resolver.resolve files e.base? spec).map fun found => [found.name]

/-- The names of the rules of a directory. -/
def directoryNames (files : FileTree) (dir : Path) : Except LintError (List String) :=
  (Resolver.resolveDirectory files dir).map fun all => all.map (·.name)

/-- The names of the rules of a plugin. -/
def pluginNames (files : FileTree) (e : Engine) (text : String) :
    Except LintError (List String) :=
  (Plugins.resolve files e.pluginHome e.base? text).map (·.names)

/-- The names of all rules that an engine asks for: those that its configuration names, those of its
directories, those of its plugins, and those that were added. -/
def wantedNames (files : FileTree) (e : Engine) : Except LintError (List String) := do
  let rules ← e.config.rules.mapM fun text => e.ruleNames files (.ofText text)
  let directories ← e.config.rulePaths.mapM (directoryNames files)
  let plugins ← e.config.plugins.mapM (e.pluginNames files)
  let added ← e.added.mapM (e.ruleNames files)
  return (rules ++ directories ++ plugins ++ added).flatten

/-- A request for a rule asks for its name. -/
theorem ruleNames_of_ruleRequest {spec : Specifier} {items : List RuleEntry}
    (h : [e.ruleRequest files spec] = items.map .ok) :
    e.ruleNames files spec = .ok (items.map (·.name)) := by
  obtain ⟨x, rfl, hx⟩ := List.map_eq_singleton_iff.1 h.symm
  obtain ⟨found, hfound, rfl⟩ := ruleRequest_eq_ok_iff.1 hx.symm
  rw [ruleNames, hfound]
  rfl

/-- The requests for a directory ask for the names of its rules. -/
theorem directoryNames_of_directoryRequests {dir : Path} {items : List RuleEntry}
    (h : e.directoryRequests files dir = items.map .ok) :
    directoryNames files dir = .ok (items.map (·.name)) := by
  rw [directoryRequests] at h
  rw [directoryNames]
  cases hall : Resolver.resolveDirectory files dir with
  | error err =>
    rw [hall] at h
    obtain ⟨x, -, hx⟩ := List.map_eq_singleton_iff.1 h.symm
    cases hx
  | ok all =>
    rw [hall] at h
    have hitems : items = all.map e.entry :=
      (List.map_inj_right fun _ _ => Except.ok.inj).1 (by rw [← h, List.map_map]; rfl)
    rw [hitems, List.map_map]
    rfl

/-- The requests for a plugin ask for the names of its rules. -/
theorem pluginNames_of_pluginRequests {text : String} {items : List RuleEntry}
    (h : e.pluginRequests files text = items.map .ok) :
    e.pluginNames files text = .ok (items.map (·.name)) := by
  rw [pluginRequests] at h
  rw [pluginNames]
  cases hb : Plugins.resolve files e.pluginHome e.base? text with
  | error err =>
    rw [hb] at h
    obtain ⟨x, -, hx⟩ := List.map_eq_singleton_iff.1 h.symm
    cases hx
  | ok b =>
    rw [hb] at h
    have hitems : Plugins.entries b = items := (List.map_inj_right fun _ _ => Except.ok.inj).1 h
    rw [← hitems, Plugins.entries, List.map_map]
    rfl

/-- When each load asks for the names that it finds, so do loads one after the other. -/
theorem exists_mapM_eq_of_flatMap_eq {α : Type} {g : α → List Request}
    {f : α → Except LintError (List String)}
    (hfg : ∀ a (items : List RuleEntry), g a = items.map .ok → f a = .ok (items.map (·.name)))
    {loads : List α} {items : List RuleEntry} (h : loads.flatMap g = items.map .ok) :
    ∃ out, loads.mapM f = .ok out ∧ out.flatten = items.map (·.name) := by
  induction loads generalizing items with
  | nil =>
    obtain rfl : items = [] := List.map_eq_nil_iff.1 h.symm
    exact ⟨[], rfl, rfl⟩
  | cons a loads ih =>
    rw [List.flatMap_cons] at h
    obtain ⟨first, rest, rfl, hfirst, hrest⟩ := List.map_eq_append_iff.1 h.symm
    obtain ⟨out, hout, hflat⟩ := ih hrest.symm
    refine ⟨first.map (·.name) :: out, ?_, ?_⟩
    · rw [List.mapM_cons, hfg a first hfirst.symm, hout]
      rfl
    · rw [List.flatten_cons, hflat, List.map_append]

/-- An engine all of whose requests are for entries asks for the names of these. -/
theorem wantedNames_of_requests {items : List RuleEntry}
    (h : e.requests files = items.map .ok) :
    e.wantedNames files = .ok (items.map (·.name)) := by
  rw [requests, configuredRequests] at h
  obtain ⟨configured, added, rfl, hconfigured, hadded⟩ := List.map_eq_append_iff.1 h.symm
  obtain ⟨rules, others, rfl, hrules, hothers⟩ := List.map_eq_append_iff.1 hconfigured
  obtain ⟨directories, plugins, rfl, hdirectories, hplugins⟩ := List.map_eq_append_iff.1 hothers
  obtain ⟨rules', hr, hr'⟩ :=
    exists_mapM_eq_of_flatMap_eq (fun _ _ => ruleNames_of_ruleRequest) hrules.symm
  obtain ⟨directories', hd, hd'⟩ :=
    exists_mapM_eq_of_flatMap_eq (fun _ _ => directoryNames_of_directoryRequests) hdirectories.symm
  obtain ⟨plugins', hp, hp'⟩ :=
    exists_mapM_eq_of_flatMap_eq (fun _ _ => pluginNames_of_pluginRequests) hplugins.symm
  obtain ⟨added', ha, ha'⟩ :=
    exists_mapM_eq_of_flatMap_eq (fun _ _ => ruleNames_of_ruleRequest) hadded.symm
  rw [wantedNames, hr, hd, hp, ha]
  simp only [List.map_append, ← hr', ← hd', ← hp', ← ha', ← List.flatten_append,
    List.append_assoc]
  rfl

/-! ### The registry of an engine -/

/-- The registry of an engine of its own: all requests of the engine were served from the empty
registry on if it is set up, and otherwise none, or those up to one that fails. -/
structure OwnsRegistry (files : FileTree) (s : State) : Prop where
  served (h : s.engine.isSetUp = true) :
    Registry.empty.serve (s.engine.requests files) = (.ok (), s.registry)
  begun (h : s.engine.isSetUp = false) : s.registry = .empty ∨
    s.registry = (Registry.empty.serve (s.engine.requests files)).2

/-- Setting an engine up serves its requests as from the empty registry on, for what an earlier
attempt left is only served again. -/
theorem OwnsRegistry.setUp (h : OwnsRegistry files s) :
    OwnsRegistry files (exec (setUp files) s).2 := by
  cases hs : s.engine.isSetUp with
  | true =>
    rw [exec_setUp_of_isSetUp hs]
    exact h
  | false =>
    have hserve : s.registry.serve (s.engine.requests files) =
        Registry.empty.serve (s.engine.requests files) := by
      rcases h.begun hs with hr | hr
      · rw [hr]
      · rw [hr, Registry.serve_again]
    rcases hout : Registry.empty.serve (s.engine.requests files) with ⟨err | ⟨⟩, r'⟩
    · rw [show s = ⟨s.engine, s.registry⟩ from rfl,
        exec_setUp_of_serve_error hs (hserve.trans hout)]
      refine ⟨fun hset => ?_, fun _ => .inr ?_⟩
      · rw [hs] at hset
        cases hset
      · exact (congrArg Prod.snd hout).symm
    · rw [show s = ⟨s.engine, s.registry⟩ from rfl,
        exec_setUp_of_serve_ok hs (hserve.trans hout)]
      exact ⟨fun _ => hout, Bool.noConfusion⟩

/-- A rule that is added to an engine that is set up is requested last; one that cannot be added
leaves the registry as it was. -/
theorem OwnsRegistry.addRule (h : OwnsRegistry files s) (hs : s.engine.isSetUp = true)
    (spec : Specifier) : OwnsRegistry files (exec (addRule files spec) s).2 := by
  have hload : Serves (loadRule files spec) s.engine s.registry
      [s.engine.ruleRequest files spec] := serves_loadRule s.registry spec
  rw [Engine.addRule, exec_bind_of_ok (exec_setUp_of_isSetUp hs)]
  rcases hout : s.registry.serve [s.engine.ruleRequest files spec] with ⟨err | ⟨⟩, r'⟩
  · rw [exec_bind_of_error (hload.error hout), Registry.eq_of_serve_singleton_eq_error hout]
    exact h
  · obtain ⟨name, hname⟩ := hload.ok hout
    rw [exec_bind_of_ok hname, exec_bind_of_ok (exec_modify _ _), exec_pure]
    refine ⟨fun _ => ?_, fun hset => ?_⟩
    · rw [requests_push, Registry.serve_append, h.served hs]
      exact hout
    · rw [show s.engine.isSetUp = false from hset] at hs
      cases hs

/-- Every call leaves an engine with a registry of its own. -/
theorem OwnsRegistry.call (h : OwnsRegistry files s) (c : Call) :
    OwnsRegistry files (exec (c.step files) s).2 := by
  by_cases hc : c = .reset
  · subst hc
    exact ⟨Bool.noConfusion, fun _ => .inl rfl⟩
  obtain ⟨-, hset⟩ := grows_setUp files s
  have hsetUp := h.setUp
  rcases hout : exec (Engine.setUp files) s with ⟨err | ⟨⟩, s₁⟩
  · rw [exec_call_of_exec_setUp_error hc hout]
    rwa [hout] at hsetUp
  -- The engine is set up by now, and only adding a rule does more than that.
  rw [hout] at hsetUp hset
  rw [exec_call_of_exec_setUp hc hout]
  have hs₁ := hset () rfl
  cases c with
  | setUp => rwa [Call.step, exec_map, exec_setUp_of_isSetUp hs₁]
  | addRule spec =>
    rw [Call.step, exec_map]
    exact hsetUp.addRule hs₁ spec
  | lint target => rwa [Call.step, exec_map, exec_lint, exec_setUp_of_isSetUp hs₁]
  | reset => exact absurd rfl hc

/-- An engine that is set up comes back to where it was by a reset and setting it up again. -/
theorem OwnsRegistry.exec_setUp_reset (h : OwnsRegistry files s) (hs : s.engine.isSetUp = true) :
    exec (Engine.setUp files) (exec (Call.step files .reset) s).2 = (.ok (), s) := by
  obtain ⟨e, r⟩ := s
  have hserve : Registry.empty.serve (requests files { e with isSetUp := false }) = (.ok (), r) :=
    h.served hs
  rw [exec_reset, exec_setUp_of_serve_ok rfl hserve, ← show e.isSetUp = true from hs]

/-! ### Histories -/

theorem after_append (s : State) (first second : List Call) :
    s.after files (first ++ second) = (s.after files first).after files second :=
  List.foldl_append

/-- Every history leaves an engine with a registry of its own. -/
theorem OwnsRegistry.after (h : OwnsRegistry files s) (calls : List Call) :
    OwnsRegistry files (s.after files calls) := by
  induction calls generalizing s with
  | nil => exact h
  | cons c calls ih => exact ih (h.call c)

/-- A history changes of an engine at most the added rules and whether it is set up. -/
theorem exists_engine_after_eq (files : FileTree) (s : State) (calls : List Call) :
    ∃ isSetUp, (s.after files calls).engine =
      { s.engine with added := s.engine.added ++ s.gained files calls, isSetUp } := by
  induction calls generalizing s with
  | nil => exact ⟨_, by rw [State.gained, List.append_nil]; rfl⟩
  | cons c calls ih =>
    obtain ⟨b, hafter⟩ := ih (exec (c.step files) s).2
    refine ⟨b, ?_⟩
    change ((exec (c.step files) s).2.after files calls).engine = _
    by_cases hc : c = .reset
    · subst hc
      rw [hafter, State.gained]
      rfl
    · rw [hafter, (grows_call s hc).engine_eq, State.gained, List.append_assoc]

/-- An engine stays set up until it makes a reset. -/
theorem isSetUp_after (h : s.engine.isSetUp = true) {calls : List Call}
    (hreset : Call.reset ∉ calls) : (s.after files calls).engine.isSetUp = true := by
  induction calls generalizing s with
  | nil => exact h
  | cons c calls ih =>
    rw [List.mem_cons, not_or] at hreset
    exact ih ((grows_call s (Ne.symm hreset.1)).isSetUp h) hreset.2

/-- A call that succeeds in setting the engine up leaves it set up. -/
theorem isSetUp_call {c : Call} (hc : c ≠ .reset) (h : (exec (setUp files) s).1 = .ok ()) :
    (exec (c.step files) s).2.engine.isSetUp = true := by
  obtain ⟨-, hset⟩ := grows_setUp files s
  rw [exec_call_of_exec_setUp hc (Prod.ext h rfl)]
  exact (grows_call _ hc).isSetUp (hset () h)

/-- Once an engine with a registry of its own is set up, and until it is reset, the registry lists
the names that the engine asks for, each where it came first: those that its configuration names,
those of its directories and of its plugins, and those that were added, in the order in which they
were. Emptying the registry and setting the engine up again leads back to the same state. -/
theorem names_after_setUp {before later : List Call} {c : Call} (he : e.isSetUp = false)
    (hadded : e.added = []) (hc : c ≠ .reset)
    (hsetUp : (exec (setUp files) (State.after files ⟨e, .empty⟩ before)).1 = .ok ())
    (hlater : Call.reset ∉ later) :
    let s := State.after files ⟨e, .empty⟩ (before ++ c :: later)
    let gained := State.gained files ⟨e, .empty⟩ (before ++ c :: later)
    (∃ names, wantedNames files { e with added := gained } = .ok names ∧
      s.registry.names = ConfigOptions.firstOccurrences (· == ·) names) ∧
    exec (setUp files) (exec (Call.step files .reset) s).2 = (.ok (), s) := by
  intro s gained
  have hset : s.engine.isSetUp = true := by
    change (State.after files _ (before ++ c :: later)).engine.isSetUp = true
    rw [after_append]
    exact isSetUp_after (isSetUp_call hc hsetUp) hlater
  have hstart : OwnsRegistry files ⟨e, .empty⟩ :=
    ⟨fun h => absurd (he.symm.trans h) Bool.false_ne_true, fun _ => .inl rfl⟩
  have hserved := (hstart.after (before ++ c :: later)).served hset
  constructor
  · -- The engine asks for what it asked for at first and for the rules that were added.
    obtain ⟨b, hengine⟩ := exists_engine_after_eq files ⟨e, .empty⟩ (before ++ c :: later)
    have hrequests : s.engine.requests files = requests files { e with added := gained } := by
      rw [show s.engine = _ from hengine, hadded, List.nil_append]
      rfl
    obtain ⟨items, hitems, hregistry⟩ := Registry.serve_eq_ok hserved
    refine ⟨items.map (·.name), wantedNames_of_requests (hrequests.symm.trans hitems), ?_⟩
    rw [show s.registry = _ from hregistry, Registry.names_appendAll_newcomers_empty]
  · exact (hstart.after (before ++ c :: later)).exec_setUp_reset hset

/-- An engine with one rule that is set up a second time, after a reset. -/
theorem names_after_setUp_todoEngine :
    todoEngine.isSetUp = false ∧ todoEngine.added = [] ∧
      (exec (setUp ⟨[], []⟩)
        (State.after ⟨[], []⟩ ⟨todoEngine, .empty⟩ [.setUp, .reset])).1 = .ok () ∧
      (State.after ⟨[], []⟩ ⟨todoEngine, .empty⟩ [.setUp, .reset, .setUp]).registry.names =
        ["no-todo"] := by
  have hafter : State.after ⟨[], []⟩ ⟨todoEngine, .empty⟩ [.setUp, .reset] =
      ⟨todoEngine, .empty⟩ := by
    change (exec (Call.step _ .reset) (exec (Call.step _ .setUp) _).2).2 = _
    rw [Call.step, exec_map, exec_setUp_todoEngine]
    rfl
  have hsetUp : (exec (setUp ⟨[], []⟩)
      (State.after ⟨[], []⟩ ⟨todoEngine, .empty⟩ [.setUp, .reset])).1 = .ok () := by
    rw [hafter, exec_setUp_todoEngine]
  refine ⟨rfl, rfl, hsetUp, ?_⟩
  obtain ⟨⟨names, hnames, hlisted⟩, -⟩ :=
    @names_after_setUp ⟨[], []⟩ todoEngine [.setUp, .reset] [] .setUp rfl rfl Call.noConfusion
      hsetUp List.not_mem_nil
  -- The engine asks for the one rule that its configuration names.
  have hwanted : wantedNames ⟨[], []⟩ todoEngine = .ok ["no-todo"] :=
    wantedNames_of_requests
      (show todoEngine.requests ⟨[], []⟩ = [todoEntry].map .ok from requests_todoEngine)
  rw [show names = ["no-todo"] from Except.ok.inj (hnames.symm.trans hwanted)] at hlisted
  exact hlisted

end ProseLinter.Engine
