import ProseLinter.Proofs.Engine.Requests
import ProseLinter.Proofs.Loading.Resolution
import ProseLinter.Proofs.Registry.Newcomers

/-!
# What a failed load leaves

A load first finds all its rules and then registers them one after the other. When something is not
found, the registry stays as it was. When a rule is refused, the rules before it are registered and
stay; for a single rule there are none before it, so loading a single rule does all or nothing. Only
registering ends in a conflict, so of a load that ends in one all rules were found.

* `LoadFails` : how a load of several rules fails, where only after a conflict all of them were found.
* `failed_loads_leave` : what each of the three loads leaves when it fails.
* `failed_directory_leaves_rule` : a directory whose load fails and leaves a rule behind.
-/

namespace ProseLinter.Engine

variable {files : FileTree} {s s' : State} {err : LintError}

/-- The entries of the rules of a directory. -/
def directoryEntries (files : FileTree) (e : Engine) (dir : Path) :
    Except LintError (List RuleEntry) :=
  (Resolver.resolveDirectory files dir).map fun all => all.map e.entry

/-- The entries of the rules of a plugin. -/
def pluginEntries (files : FileTree) (e : Engine) (text : String) :
    Except LintError (List RuleEntry) :=
  (Plugins.resolve files e.pluginHome e.base? text).map Plugins.entries

/-- The error is not that a name is bound to another rule. -/
def NoConflict (err : LintError) : Prop :=
  ∀ name existing incoming, err ≠ .ruleConflict name existing incoming

/-- A load of several entries failed: either they were not found, which is no conflict, and the
registry is as it was, or they were registered up to one whose name is bound to an entry that does
not stand for it. Those before that one are provided, by newcomers or by what was there. -/
inductive LoadFails (found : Except LintError (List RuleEntry)) (r : Registry) :
    Registry → LintError → Prop
  | notFound {err : LintError} (h : found = .error err) (herr : NoConflict err) :
      LoadFails found r r err
  | refused {before later : List RuleEntry} {x e : RuleEntry}
      (h : found = .ok (before ++ x :: later))
      (hbefore : ∀ y ∈ before, (r.appendAll (r.newcomers before)).Provides y)
      (he : (r.appendAll (r.newcomers before)).get? x.name = some e)
      (hx : e.standsFor x = false) :
      LoadFails found r (r.appendAll (r.newcomers before))
        (.ruleConflict x.name e.origin x.origin)

/-- The requests for entries that were looked for. -/
def requestsFor : Except LintError (List RuleEntry) → List Request
  | .ok items => items.map .ok
  | .error err => [.error err]

theorem directoryRequests_eq (files : FileTree) (e : Engine) (dir : Path) :
    e.directoryRequests files dir = requestsFor (e.directoryEntries files dir) := by
  rw [directoryRequests, directoryEntries]
  cases Resolver.resolveDirectory files dir with
  | error err => rfl
  | ok all => exact (List.map_map ..).symm

theorem pluginRequests_eq (files : FileTree) (e : Engine) (text : String) :
    e.pluginRequests files text = requestsFor (e.pluginEntries files text) := by
  rw [pluginRequests, pluginEntries]
  cases Plugins.resolve files e.pluginHome e.base? text <;> rfl

/-! ### Lookups -/

/-- What keeps the rule of a path from being found is no conflict. -/
theorem noConflict_of_resolvePath {p : Path} (h : Resolver.resolvePath files p = .error err) :
    NoConflict err := by
  unfold Resolver.resolvePath at h
  extract_lets file missing at h
  split at h
  · obtain rfl := Except.error.inj h
    nofun
  · split at h
    · -- The module of the file could not be read.
      rcases eq_error_or_of_bind_eq_error h with h | ⟨rule, -, h⟩
      · obtain ⟨_, -, rfl⟩ := exists_of_mapError_eq_error h
        nofun
      · cases h
    · obtain rfl := Except.error.inj h
      nofun

/-- What keeps the rules of a directory from being found is no conflict. -/
theorem noConflict_of_directoryEntries {e : Engine} {dir : Path}
    (h : e.directoryEntries files dir = .error err) : NoConflict err := by
  rcases eq_error_or_of_bind_eq_error (eq_error_of_map h) with h | ⟨paths, -, h⟩
  · rcases eq_error_or_of_bind_eq_error h with h | ⟨all, -, h⟩
    · obtain ⟨_, -, rfl⟩ := exists_of_mapError_eq_error h
      nofun
    · cases h
  · obtain ⟨p, -, hp⟩ := exists_eq_error_of_mapM h
    exact noConflict_of_resolvePath hp

/-- What keeps a plugin from being located is no conflict. -/
theorem noConflict_of_locate {home? base? : Option Path} {text : String}
    (h : Plugins.locate files home? base? text = .error err) : NoConflict err := by
  unfold Plugins.locate at h
  split at h
  · unfold Plugins.locatePath at h
    extract_lets path file missing at h
    split at h
    · obtain rfl := Except.error.inj h
      nofun
    · split at h
      · cases h
      · obtain rfl := Except.error.inj h
        nofun
  · unfold Plugins.locateName at h
    extract_lets bare names searched at h
    split at h
    · obtain rfl := Except.error.inj h
      nofun
    · split at h
      · cases h
      · obtain rfl := Except.error.inj h
        nofun

/-- What keeps the rules of a plugin from being found is no conflict. -/
theorem noConflict_of_pluginEntries {e : Engine} {text : String}
    (h : e.pluginEntries files text = .error err) : NoConflict err := by
  rcases eq_error_or_of_bind_eq_error (eq_error_of_map h) with h | ⟨⟨name, path⟩, -, h⟩
  · exact noConflict_of_locate h
  · rcases eq_error_or_of_bind_eq_error h with h | ⟨plugin, -, h⟩
    · obtain ⟨_, -, rfl⟩ := exists_of_mapError_eq_error h
      nofun
    · cases h

/-! ### Loads of several rules -/

/-- When the requests for entries fail, the entries were not found or one of them is refused. -/
theorem loadFails_of_serve {found : Except LintError (List RuleEntry)} {r r' : Registry}
    (hfound : ∀ err, found = .error err → NoConflict err)
    (h : r.serve (requestsFor found) = (.error err, r')) : LoadFails found r r' err := by
  cases found with
  | error e =>
    cases h
    exact .notFound rfl (hfound _ rfl)
  | ok items =>
    -- The entries are split as the requests for them are: before, at and after the failure.
    obtain ⟨before, failed, later, hsplit, hserved, rfl, hfailed⟩ := Registry.serve_eq_error h
    obtain ⟨first, rest, rfl, hfirst, hrest⟩ := List.map_eq_append_iff.1 hsplit
    obtain ⟨x, later, rfl, rfl, -⟩ := List.map_eq_cons_iff.1 hrest
    obtain rfl : first = before := (List.map_inj_right fun _ _ => Except.ok.inj).1 hfirst
    have hbefore : ∀ y ∈ first, (r.appendAll (r.newcomers first)).Provides y := by
      intro y hy
      obtain ⟨y', heq, hprovided⟩ := Registry.provides_of_serve hserved _ (List.mem_map_of_mem hy)
      rwa [Except.ok.inj heq]
    -- The request that failed is one for an entry, so it was refused.
    rcases hfailed with hmissing | ⟨y, hy, hrefused⟩
    · cases hmissing
    · cases hy
      obtain ⟨e, he, hx, rfl⟩ := Registry.enter_eq_error_iff.1 hrefused
      exact .refused rfl hbefore he hx

/-- A failed load keeps the names that were there, in front and in order, and all their entries. -/
theorem LoadFails.extends {found : Except LintError (List RuleEntry)} {r r' : Registry}
    (h : LoadFails found r r' err) : r.Extends r' := by
  cases h with
  | notFound h herr => exact .refl r
  | refused h hbefore he hx => exact Registry.extends_appendAll_newcomers r _

/-- A load that fails for another reason than a conflict changes nothing. -/
theorem LoadFails.eq_of_ne_ruleConflict {found : Except LintError (List RuleEntry)}
    {r r' : Registry} (h : LoadFails found r r' err)
    (herr : ∀ name existing incoming, err ≠ .ruleConflict name existing incoming) : r' = r := by
  cases h with
  | notFound h herr => rfl
  | refused h hbefore he hx => exact absurd rfl (herr _ _ _)

/-- A load that serves the requests for entries fails as these do. -/
theorem Serves.loadFails {α : Type} {step : Step α} {found : Except LintError (List RuleEntry)}
    (hfound : ∀ err, found = .error err → NoConflict err)
    (hstep : Serves step s.engine s.registry (requestsFor found))
    (h : exec step s = (.error err, s')) :
    s'.engine = s.engine ∧ s.registry.Extends s'.registry ∧
      LoadFails found s.registry s'.registry err ∧
      ((∀ name existing incoming, err ≠ .ruleConflict name existing incoming) → s' = s) := by
  obtain ⟨e, r⟩ := s
  rcases hserve : r.serve (requestsFor found) with ⟨err' | ⟨⟩, r'⟩
  · rw [hstep.error hserve] at h
    cases h
    have hfails := loadFails_of_serve hfound hserve
    refine ⟨rfl, hfails.extends, hfails, fun herr => ?_⟩
    rw [hfails.eq_of_ne_ruleConflict herr]
  · obtain ⟨a, ha⟩ := hstep.ok hserve
    rw [ha] at h
    cases h

/-! ### A single rule -/

/-- Loading a single rule changes nothing when it fails. -/
theorem eq_of_exec_loadRule_eq_error {spec : Specifier}
    (h : exec (loadRule files spec) s = (.error err, s')) : s' = s := by
  have hload : Serves (loadRule files spec) s.engine s.registry
      [s.engine.ruleRequest files spec] := serves_loadRule s.registry spec
  rcases hserve : s.registry.serve [s.engine.ruleRequest files spec] with ⟨err' | ⟨⟩, r'⟩
  · rw [show s = ⟨s.engine, s.registry⟩ from rfl, hload.error hserve] at h
    cases h
    rw [Registry.eq_of_serve_singleton_eq_error hserve]
  · obtain ⟨a, ha⟩ := hload.ok hserve
    rw [show s = ⟨s.engine, s.registry⟩ from rfl, ha] at h
    cases h

/-! ### A directory with two modules of one name -/

/-- A directory with two modules of one name. -/
def twoModules : FileTree :=
  ⟨[(["r"], .directory), (["r", "a.json"], .file "\x7b\"patterns\":[\"x\"]\x7d".toUTF8),
    (["r", "a.jsonc"], .file "\x7b\"patterns\":[\"x\"]\x7d".toUTF8)], []⟩

/-- The rules of both modules are found, under one name and from two files. -/
theorem exists_resolveDirectory_twoModules :
    ∃ f g, Resolver.resolveDirectory twoModules ⟨"r"⟩ = .ok [f, g] ∧
      f.key = ("a", .file ⟨"/r/a.json"⟩) ∧ g.key = ("a", .file ⟨"/r/a.jsonc"⟩) := by
  have hchildren : twoModules.children ⟨"r"⟩ = .ok [⟨"r/a.json"⟩, ⟨"r/a.jsonc"⟩] := by
    decide +kernel
  have hfiles : Resolver.moduleFiles twoModules ⟨"r"⟩ =
      .ok [⟨"r/a.json"⟩, ⟨"r/a.jsonc"⟩] := by
    have hkept : [(⟨"r/a.json"⟩ : Path), ⟨"r/a.jsonc"⟩].filter
        (fun p => Naming.hasModuleExtension p && twoModules.isFile p) =
          [⟨"r/a.json"⟩, ⟨"r/a.jsonc"⟩] := by
      decide +kernel
    have hsorted : [(⟨"r/a.json"⟩ : Path), ⟨"r/a.jsonc"⟩].Pairwise fun p q => !q.lt p := by
      decide +kernel
    rw [Resolver.moduleFiles, hchildren]
    change Except.ok _ = _
    rw [hkept, List.mergeSort_of_pairwise hsorted]
  have hfirst : (Resolver.resolvePath twoModules ⟨"r/a.json"⟩).toOption.map (·.key) =
      some ("a", .file ⟨"/r/a.json"⟩) := by
    decide +kernel
  have hsecond : (Resolver.resolvePath twoModules ⟨"r/a.jsonc"⟩).toOption.map (·.key) =
      some ("a", .file ⟨"/r/a.jsonc"⟩) := by
    decide +kernel
  obtain ⟨f, hf, hfkey⟩ := Option.map_eq_some_iff.1 hfirst
  obtain ⟨g, hg, hgkey⟩ := Option.map_eq_some_iff.1 hsecond
  refine ⟨f, g, ?_, hfkey, hgkey⟩
  rw [Resolver.resolveDirectory, hfiles]
  change List.mapM _ _ = _
  rw [List.mapM_cons, List.mapM_cons, List.mapM_nil, eq_ok_of_toOption hf, eq_ok_of_toOption hg]
  rfl

/-! ### All loads -/

/-- A load of a single rule that fails changes nothing. A load of a directory or a plugin that fails
changes nothing either unless a rule is refused because its name is bound to another one; then
exactly the rules before that one were registered, those of them whose names were free behind all
others and in order, and what the registry held before is as it was. -/
theorem failed_loads_leave (files : FileTree) (s : State) :
    (∀ spec err s', exec (loadRule files spec) s = (.error err, s') → s' = s) ∧
      (∀ dir err s', exec (loadDirectory files dir) s = (.error err, s') →
        s'.engine = s.engine ∧ s.registry.Extends s'.registry ∧
          LoadFails (s.engine.directoryEntries files dir) s.registry s'.registry err ∧
          ((∀ name existing incoming, err ≠ .ruleConflict name existing incoming) → s' = s)) ∧
      ∀ text err s', exec (loadPlugin files text) s = (.error err, s') →
        s'.engine = s.engine ∧ s.registry.Extends s'.registry ∧
          LoadFails (s.engine.pluginEntries files text) s.registry s'.registry err ∧
          ((∀ name existing incoming, err ≠ .ruleConflict name existing incoming) → s' = s) := by
  refine ⟨?_, ?_, ?_⟩
  · intro spec err s' h
    exact eq_of_exec_loadRule_eq_error h
  · intro dir err s' h
    refine Serves.loadFails (fun _ => noConflict_of_directoryEntries) ?_ h
    rw [← directoryRequests_eq]
    exact serves_loadDirectory s.registry dir
  · intro text err s' h
    refine Serves.loadFails (fun _ => noConflict_of_pluginEntries) ?_ h
    rw [← pluginRequests_eq]
    exact serves_loadPlugin s.registry text

/-- Loading the directory fails, for its second module has the name of the first one, and leaves the
rule of the first module in the registry. -/
theorem failed_directory_leaves_rule :
    ∃ s', exec (loadDirectory twoModules ⟨"r"⟩) ⟨todoEngine, .empty⟩ =
        (.error (.ruleConflict "a" (.file ⟨"/r/a.json"⟩) (.file ⟨"/r/a.jsonc"⟩)), s') ∧
      Registry.empty.names = [] ∧ s'.registry.names = ["a"] := by
  obtain ⟨f, g, hdirectory, hf, hg⟩ := exists_resolveDirectory_twoModules
  obtain ⟨hfname, hforigin⟩ := Prod.ext_iff.1 hf
  obtain ⟨hgname, hgorigin⟩ := Prod.ext_iff.1 hg
  have hmodule := Resolver.isModule_of_resolveDirectory hdirectory
  let x := todoEngine.entry f
  let y := todoEngine.entry g
  have hfree : Registry.empty.get? x.name = none := Registry.get?_empty _
  have hbound : (Registry.empty.append x).get? y.name = some x := by
    have hname : x.name = y.name := hfname.trans hgname.symm
    rw [Registry.get?_append, if_pos hname]
  -- The two are different objects from different files.
  have hstands : x.standsFor y = false := by
    have hobject : x.rule.sameObject y.rule = false := by
      rw [Rule.sameObject, show x.rule.tag = none from (hmodule f List.mem_cons_self).1]
    have horigin : x.origin.same y.origin = false := by
      rw [show x.origin = _ from hforigin, show y.origin = _ from hgorigin]
      decide +kernel
    rw [RuleEntry.standsFor, hobject, horigin, Bool.or_false]
  have hserve : Registry.empty.serve (todoEngine.directoryRequests twoModules ⟨"r"⟩) =
      (.error (.ruleConflict y.name x.origin y.origin), Registry.empty.append x) := by
    rw [directoryRequests, hdirectory]
    change Registry.empty.serve [.ok x, .ok y] = _
    rw [Registry.serve_cons_of_enter_eq_ok (Registry.enter_of_get?_eq_none hfree),
      Registry.serve_cons_of_enter_eq_error (Registry.enter_of_not_standsFor hbound hstands)]
  rw [show y.name = "a" from hgname, show x.origin = _ from hforigin,
    show y.origin = _ from hgorigin] at hserve
  refine ⟨_, (serves_loadDirectory _ _).error hserve, rfl, ?_⟩
  rw [Registry.names_append, show x.name = "a" from hfname]
  rfl

end ProseLinter.Engine
