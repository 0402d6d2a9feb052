import ProseLinter.Proofs.Config.NormalForm
import ProseLinter.Proofs.Engine.SharedRegistry
import ProseLinter.Proofs.Engine.Sources
import ProseLinter.Proofs.Loading.RuleName

/-!
# Engines that only look rules up

When no objects are handed in, every rule of a shared registry was looked up: by its name, at a
path, in a directory or in a plugin. Its name is then one that its origin may have, whatever else is
done with the engines and the registry. Rules of plugins and other rules never get in each other's
way, and the options of a configuration can be written for every rule.

* `Engine.requests_of_get?_run` : what an action registers is something that it asks for.
* `Engine.names_of_mem_requests` : what an action asks for has a name as its origin says.
* `Fleet.WellNamed.act` and `Fleet.WellNamed.afterActions` : so has everything in the registry,
  after one action and after all.
* `Fleet.names_settled` : what this says about collisions and about options.
-/

namespace ProseLinter

open Engine

namespace Engine

/-- What is done with an engine and its registry when no objects are handed in. -/
inductive Action where
  | setUp
  | addRule (spec : Specifier) (h : spec.IsWritten)
  | loadRule (spec : Specifier) (h : spec.IsWritten)
  | loadDirectory (dir : Path)
  | loadPlugin (text : String)
  | lint (target : Target)
  | setBase (dir : Path)
  | setResolver (resolver : Resolver)
  | setPluginHome (home? : Option Path)
  | configure (name : String) (option : RuleOption)
  | reset

/-- The engine and the registry after an action. -/
def Action.run (files : FileTree) (s : State) : Action → State
  | setUp => (exec (Engine.setUp files) s).2
  | addRule spec _ => (exec (Engine.addRule files spec) s).2
  | loadRule spec _ => (exec (Engine.loadRule files spec) s).2
  | loadDirectory dir => (exec (Engine.loadDirectory files dir) s).2
  | loadPlugin text => (exec (Engine.loadPlugin files text) s).2
  | lint target => (exec (Engine.lint files target) s).2
  | setBase dir => (exec (Engine.setBase dir) s).2
  | setResolver resolver => { s with engine := { s.engine with resolver } }
  | setPluginHome home? => { s with engine := { s.engine with pluginHome := home? } }
  | configure name option => { s with registry := (s.registry.configure name option).2 }
  | reset => (exec Engine.reset s).2

/-- What an action asks the registry for, if the engine has still to be set up. -/
def Action.requests (files : FileTree) (e : Engine) : Action → List Request
  | setUp => e.requests files
  | addRule spec _ => e.requests files ++ [e.ruleRequest files spec]
  | loadRule spec _ => [e.ruleRequest files spec]
  | loadDirectory dir => e.directoryRequests files dir
  | loadPlugin text => e.pluginRequests files text
  | lint _ => e.requests files
  | _ => []

/-- No object was added to an engine. -/
def OnlyLooksUp (e : Engine) : Prop :=
  ∀ spec ∈ e.added, spec.IsWritten

variable {files : FileTree} {e : Engine} {s : State} {x : RuleEntry}

/-! ### What is registered -/

/-- What a step that serves requests registers was asked for. -/
theorem Serves.mem_of_get? {α : Type} {step : Step α} {requests : List Request}
    (h : Serves step s.engine s.registry requests) {name : String}
    (hx : (exec step s).2.registry.get? name = some x) :
    s.registry.get? name = some x ∨ .ok x ∈ requests := by
  rw [h.exec_snd] at hx
  exact Registry.mem_of_get?_serve hx

/-- An entry after an action is one that the action asks for, or it was there before, up to its
option. -/
theorem requests_of_get?_run {a : Action} {name : String}
    (h : (a.run files s).registry.get? name = some x) :
    (∃ y, s.registry.get? name = some y ∧ y.name = x.name ∧ y.origin = x.origin) ∨
      .ok x ∈ a.requests files s.engine := by
  have hold (hx : s.registry.get? name = some x) :
      ∃ y, s.registry.get? name = some y ∧ y.name = x.name ∧ y.origin = x.origin :=
    ⟨x, hx, rfl, rfl⟩
  cases a with
  | setUp => exact (mem_requests_of_get?_setUp h).imp_left hold
  | addRule spec hspec =>
    refine (mem_requests_of_get?_addRule h).imp hold fun hx => ?_
    rw [Action.requests, List.mem_append, List.mem_singleton]
    exact hx.imp_right Eq.symm
  | loadRule spec hspec => exact ((serves_loadRule s.registry spec).mem_of_get? h).imp_left hold
  | loadDirectory dir => exact ((serves_loadDirectory s.registry dir).mem_of_get? h).imp_left hold
  | loadPlugin text => exact ((serves_loadPlugin s.registry text).mem_of_get? h).imp_left hold
  | lint target =>
    -- Linting sets the engine up and registers nothing else.
    rw [Action.run, exec_lint] at h
    exact (mem_requests_of_get?_setUp h).imp_left hold
  | setBase dir => exact .inl (hold h)
  | setResolver resolver => exact .inl (hold h)
  | setPluginHome home? => exact .inl (hold h)
  | configure key option =>
    -- Only the option of an entry may be another one.
    refine .inl ?_
    rw [Action.run, Registry.get?_configure] at h
    split at h
    · obtain ⟨y, hy, rfl⟩ := Option.map_eq_some_iff.1 h
      exact ⟨y, hy, rfl, rfl⟩
    · exact hold h
  | reset =>
    -- Nothing is left.
    have hnone : (Action.run files s .reset).registry.get? name = none := Registry.get?_empty name
    rw [hnone] at h
    cases h

/-! ### The names that are asked for -/

theorem names_of_ruleRequest {spec : Specifier} (hspec : spec.IsWritten)
    (h : e.ruleRequest files spec = .ok x) : x.origin.Names x.name := by
  obtain ⟨found, hfound, rfl⟩ := ruleRequest_eq_ok_iff.1 h
  exact Resolver.names_of_resolve hspec hfound

theorem names_of_mem_directoryRequests {dir : Path} (h : .ok x ∈ e.directoryRequests files dir) :
    x.origin.Names x.name := by
  rw [directoryRequests] at h
  split at h
  · next all hall =>
    obtain ⟨found, hfound, heq⟩ := List.mem_map.1 h
    cases heq
    exact Resolver.names_of_resolveDirectory hall found hfound
  · cases List.mem_singleton.1 h

theorem names_of_mem_pluginRequests {text : String} (h : .ok x ∈ e.pluginRequests files text) :
    x.origin.Names x.name := by
  rw [pluginRequests] at h
  split at h
  · next b hb =>
    obtain ⟨y, hy, heq⟩ := List.mem_map.1 h
    cases heq
    exact Plugins.names_of_mem_entries hb _ hy
  · cases List.mem_singleton.1 h

/-- What an engine to which no object was added asks for when it is set up. -/
theorem OnlyLooksUp.names_of_mem_requests (he : e.OnlyLooksUp) (h : .ok x ∈ e.requests files) :
    x.origin.Names x.name := by
  rw [requests, configuredRequests, List.mem_append, List.mem_append, List.mem_append] at h
  rcases h with (hrule | hdirectory | hplugin) | hadded
  · obtain ⟨text, -, hx⟩ := List.mem_flatMap.1 hrule
    exact names_of_ruleRequest (.text text) (List.mem_singleton.1 hx).symm
  · obtain ⟨dir, -, hx⟩ := List.mem_flatMap.1 hdirectory
    exact names_of_mem_directoryRequests hx
  · obtain ⟨text, -, hx⟩ := List.mem_flatMap.1 hplugin
    exact names_of_mem_pluginRequests hx
  · obtain ⟨spec, hspec, hx⟩ := List.mem_flatMap.1 hadded
    exact names_of_ruleRequest (he spec hspec) (List.mem_singleton.1 hx).symm

/-- What an action asks for has a name as its origin says. -/
theorem names_of_mem_requests (he : e.OnlyLooksUp) {a : Action}
    (h : .ok x ∈ a.requests files e) : x.origin.Names x.name := by
  cases a with
  | setUp => exact he.names_of_mem_requests h
  | addRule spec hspec =>
    rcases List.mem_append.1 h with hconfigured | hadded
    · exact he.names_of_mem_requests hconfigured
    · exact names_of_ruleRequest hspec (List.mem_singleton.1 hadded).symm
  | loadRule spec hspec => exact names_of_ruleRequest hspec (List.mem_singleton.1 h).symm
  | loadDirectory dir => exact names_of_mem_directoryRequests h
  | loadPlugin text => exact names_of_mem_pluginRequests h
  | lint target => exact he.names_of_mem_requests h
  | setBase dir => cases h
  | setResolver resolver => cases h
  | setPluginHome home? => cases h
  | configure key option => cases h
  | reset => cases h

/-- Setting an engine up adds nothing to it. -/
theorem OnlyLooksUp.setUp (h : s.engine.OnlyLooksUp) :
    (exec (Engine.setUp files) s).2.engine.OnlyLooksUp := by
  obtain ⟨hgrows, -⟩ := grows_setUp files s
  rw [OnlyLooksUp, hgrows.engine_eq, List.append_nil]
  exact h

/-- A step that serves requests adds nothing to the engine. -/
theorem OnlyLooksUp.of_serves (h : s.engine.OnlyLooksUp) {α : Type} {step : Step α}
    {requests : List Request} (hstep : Serves step s.engine s.registry requests) :
    (exec step s).2.engine.OnlyLooksUp := by
  rw [hstep.exec_snd]
  exact h

/-- A rule is remembered only if it could be added, and then it is the one that was given. -/
theorem OnlyLooksUp.addRule (h : s.engine.OnlyLooksUp) {spec : Specifier} (hspec : spec.IsWritten) :
    (exec (Engine.addRule files spec) s).2.engine.OnlyLooksUp := by
  have hgrows : Grows files s (exec (Call.step files (.addRule spec)) s).2
      (Call.accepted (.addRule spec) (exec (Call.step files (.addRule spec)) s).1) :=
    grows_addRule s spec
  rw [Call.step, exec_map] at hgrows
  rw [OnlyLooksUp, hgrows.engine_eq]
  -- What was added is what was there before and, unless the step failed, the specifier.
  intro spec' hspec'
  rcases List.mem_append.1 hspec' with hbefore | hnew
  · exact h spec' hbefore
  · rcases hout : exec (Engine.addRule files spec) s with ⟨err | name, s'⟩
    · rw [hout] at hnew
      cases hnew
    · rw [hout] at hnew
      rwa [List.mem_singleton.1 hnew]

/-- An action adds no object. -/
theorem OnlyLooksUp.run (h : s.engine.OnlyLooksUp) (a : Action) :
    (a.run files s).engine.OnlyLooksUp := by
  cases a with
  | setUp => exact h.setUp
  | addRule spec hspec => exact h.addRule hspec
  | loadRule spec hspec => exact h.of_serves (serves_loadRule s.registry spec)
  | loadDirectory dir => exact h.of_serves (serves_loadDirectory s.registry dir)
  | loadPlugin text => exact h.of_serves (serves_loadPlugin s.registry text)
  | lint target =>
    rw [Action.run, exec_lint]
    exact h.setUp
  | setBase dir => exact h
  | setResolver resolver => exact h
  | setPluginHome home? => exact h
  | configure key option => exact h
  | reset => exact h

/-- A step that serves requests extends the registry. -/
theorem Serves.extends {α : Type} {step : Step α} {requests : List Request}
    (h : Serves step s.engine s.registry requests) :
    s.registry.Extends (exec step s).2.registry := by
  rw [h.exec_snd]
  exact Registry.extends_serve s.registry requests

/-- An action keeps the order and the entries of the registry together. -/
theorem consistent_run (h : s.registry.Consistent) (a : Action) :
    (a.run files s).registry.Consistent := by
  cases a with
  | setUp => exact (grows_setUp files s).1.registry_extends.consistent h
  | addRule spec hspec =>
    have hgrows := (grows_addRule s spec : Grows files s _ _).registry_extends
    rw [Call.step, exec_map] at hgrows
    exact hgrows.consistent h
  | loadRule spec hspec => exact (serves_loadRule s.registry spec).extends.consistent h
  | loadDirectory dir => exact (serves_loadDirectory s.registry dir).extends.consistent h
  | loadPlugin text => exact (serves_loadPlugin s.registry text).extends.consistent h
  | lint target =>
    rw [Action.run, exec_lint]
    exact (grows_setUp files s).1.registry_extends.consistent h
  | setBase dir => exact h
  | setResolver resolver => exact h
  | setPluginHome home? => exact h
  | configure key option => exact Registry.consistent_configure h key option
  | reset => exact Registry.consistent_empty

end Engine

namespace Fleet

variable {ι : Type} {w : Fleet ι}

/-- To no engine an object was added, and whatever is in the registry has a name as its origin
says. -/
structure WellNamed (w : Fleet ι) : Prop where
  onlyLooksUp (i : ι) : (w.engines i).OnlyLooksUp
  consistent : w.registry.Consistent
  names {name : String} {x : RuleEntry} (h : w.registry.get? name = some x) :
    x.origin.Names x.name

theorem wellNamed_empty (hr : w.registry = .empty) (hadded : ∀ i, (w.engines i).added = []) :
    w.WellNamed where
  onlyLooksUp i spec hspec := by
    rw [hadded i] at hspec
    cases hspec
  consistent := by
    rw [hr]
    exact Registry.consistent_empty
  names h := by
    rw [hr, Registry.get?_empty] at h
    cases h

variable [DecidableEq ι]

/-- All engines after an action of one of them. -/
def act (w : Fleet ι) (i : ι) (files : FileTree) (a : Action) : Fleet ι :=
  let s := a.run files (w.state i)
  ⟨Function.update w.engines i s.engine, s.registry⟩

/-- The engines after actions, made one after the other; the files may change in between. -/
def afterActions (w : Fleet ι) (history : List (ι × FileTree × Action)) : Fleet ι :=
  history.foldl (fun w p => w.act p.1 p.2.1 p.2.2) w

/-- An action of one engine keeps the names in order. -/
theorem WellNamed.act (h : w.WellNamed) (i : ι) (files : FileTree) (a : Action) :
    (w.act i files a).WellNamed where
  onlyLooksUp j := by
    by_cases hj : j = i
    · subst hj
      simp only [Fleet.act, Function.update_self]
      exact OnlyLooksUp.run (s := w.state j) (h.onlyLooksUp j) a
    · simp only [Fleet.act, Function.update_of_ne hj]
      exact h.onlyLooksUp j
  consistent := consistent_run (s := w.state i) h.consistent a
  names {name x} hx := by
    rcases requests_of_get?_run (s := w.state i) hx with ⟨y, hy, hname, horigin⟩ | hmem
    · -- The entry was there before, and what an action changes of it is at most its option.
      rw [← hname, ← horigin]
      exact h.names hy
    · exact names_of_mem_requests (h.onlyLooksUp i) hmem

/-- All actions keep the names in order. -/
theorem WellNamed.afterActions (h : w.WellNamed) (history : List (ι × FileTree × Action)) :
    (w.afterActions history).WellNamed := by
  induction history generalizing w with
  | nil => exact h
  | cons p history ih => exact ih (h.act p.1 p.2.1 p.2.2)

/-- When engines that share a registry only look rules up, every rule in the registry has a name as
its origin says: one without a slash and without the prefix of rules, or that of a plugin, which has
neither a slash nor the prefix of plugins, a slash and a name of its own. What an engine goes on to
ask for under a name that is taken is a rule of a plugin if the rule that has it is one, and then
both the plugins and the rules in them have the same names. And every rule can be given options, for
its name and for its name behind any number of prefixes. -/
theorem names_settled (hr : w.registry = .empty) (hadded : ∀ i, (w.engines i).added = [])
    (history : List (ι × FileTree × Action)) (name : String) (x : RuleEntry)
    (hx : (w.afterActions history).registry.get? name = some x) :
    x.name = name ∧ x.origin.Names name ∧
      (∀ i files a y, .ok y ∈ Action.requests files ((w.afterActions history).engines i) a →
        y.name = name →
          y.origin.isPlugin = x.origin.isPlugin ∧
            ∀ space path rule space' path' rule',
              x.origin = .plugin space path → name = space ++ "/" ++ rule →
              y.origin = .plugin space' path' → y.name = space' ++ "/" ++ rule' →
                space' = space ∧ rule' = rule) ∧
      (∀ n, Naming.canonicalKey ((x.origin.lead ++ ·)^[n] name) = name) ∧
      ∀ (o : ConfigOptions) (n : Nat) (option : RuleOption),
        ((x.origin.lead ++ ·)^[n] name, option) ∈ o.options.getD [] →
        (∀ p ∈ o.options.getD [], Naming.canonicalKey p.1 = name → p.2 = option) →
          o.normalize.option? name = some option := by
  -- The invariant holds at the start and after every action, so it holds now.
  have hw := (wellNamed_empty hr hadded).afterActions history
  have hname : x.name = name := hw.consistent.name_eq hx
  have hnames : x.origin.Names name := by
    rw [← hname]
    exact hw.names hx
  refine ⟨hname, hnames, ?_, hnames.canonicalKey_iterate_append, ?_⟩
  · intro i files a y hy hyname
    -- The newcomer has a name as its origin says too, and the name is the same one.
    have hynames : y.origin.Names y.name := names_of_mem_requests (hw.onlyLooksUp i) hy
    have hsame : y.origin.Names name := by
      rw [← hyname]
      exact hynames
    refine ⟨hsame.isPlugin_eq hnames, ?_⟩
    intro space path rule space' path' rule' hxorigin hxrule hyorigin hyrule
    rw [hxorigin, hxrule] at hnames
    rw [hyorigin, hyrule] at hynames
    exact hynames.eq_of_plugin hnames (hyrule.symm.trans (hyname.trans hxrule))
  · intro o n option hmem hunique
    exact ConfigOptions.option?_normalize hmem (hnames.canonicalKey_iterate_append n) hunique

/-- An engine with a plugin. -/
def pluginEngine : Engine where
  config := { plugins := ["p"] }
  resolver := manifestResolver
  pluginHome := some ⟨"h"⟩
  formatters := .empty
  parsers := Parsers.default.restrict []
  added := []
  isSetUp := false

/-- The rule of the plugin is registered under the name of the plugin and its own, and can be given
options for that name behind two prefixes. -/
theorem names_settled_plugin :
    ∃ x, ((Fleet.mk (fun _ : Unit => pluginEngine) .empty).afterActions
          [((), manifestTree, .setUp)]).registry.get? "p/r" = some x ∧
      x.origin = .plugin "p" ⟨"/h/plugins/p/plugin.json"⟩ ∧ x.origin.Names "p/r" ∧
      Naming.canonicalKey "kotolint-plugin-kotolint-plugin-p/r" = "p/r" := by
  have hrequests : (pluginEngine.requests manifestTree).map
      (fun q => q.toOption.map fun x => (x.name, x.origin)) =
        [some ("p/r", .plugin "p" ⟨"/h/plugins/p/plugin.json"⟩)] := by
    decide +kernel
  -- Rules cannot be compared, so the request is taken from the list by its name and origin.
  obtain ⟨q, hq, hkey⟩ := List.map_eq_singleton_iff.1 hrequests
  obtain ⟨x, hx, hkey⟩ := Option.map_eq_some_iff.1 hkey
  obtain ⟨hname, horigin⟩ := Prod.ext_iff.1 hkey
  have hserve : Registry.empty.serve (pluginEngine.requests manifestTree) =
      (.ok (), Registry.empty.append x) := by
    rw [hq, eq_ok_of_toOption hx,
      Registry.serve_cons_of_enter_eq_ok (Registry.enter_of_get?_eq_none (Registry.get?_empty _)),
      Registry.serve]
  have hget : ((Fleet.mk (fun _ : Unit => pluginEngine) .empty).afterActions
      [((), manifestTree, .setUp)]).registry.get? "p/r" = some x := by
    have hsetUp := exec_setUp_of_serve_ok rfl hserve
    change (exec (setUp manifestTree) ⟨pluginEngine, .empty⟩).2.registry.get? "p/r" = some x
    rw [hsetUp, Registry.get?_append, if_pos hname]
  obtain ⟨-, hnames, -, hkeys, -⟩ := names_settled rfl (fun _ => rfl) _ "p/r" x hget
  have hprefixed := hkeys 2
  rw [show x.origin = _ from horigin] at hprefixed
  exact ⟨x, hget, horigin, hnames, hprefixed⟩

end Fleet

end ProseLinter
