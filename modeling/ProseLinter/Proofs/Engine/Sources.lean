import ProseLinter.Proofs.Engine.Call
import ProseLinter.Proofs.Loading.Resolution
import ProseLinter.Proofs.Registry.Outline

/-!
# What entries carry

The option of an entry that an engine asks for follows from its name and origin: the rules of
plugins have the default one and all others the one that the configuration has for the name. So does
the tag of its rule: the rules of modules are new objects, and a package of the catalog has one
rule. An object that a caller handed in is found again among the rules that were added.

* `isMade_of_mem_requests` : the option and the rule of an entry that an engine asks for.
* `isMade_of_get?_call` : an entry that is new after a call is one that the engine made.
* `find?_objects` : the first entry of a name, if it is for an object, is the first object of that
  name that was added.
-/

namespace ProseLinter

namespace Engine

variable {files : FileTree} {e : Engine} {x : RuleEntry}

/-- The option that an engine gives to a rule of a name and an origin. -/
def givenOption (e : Engine) (name : String) (origin : Origin) : RuleOption :=
  if origin.isPlugin then .default else (e.config.option? name).getD .default

/-- An entry has the option that the engine gives to its name and origin, and its rule is that of
its package or a new object, unless it is for an object that was handed in. -/
structure IsMade (e : Engine) (x : RuleEntry) : Prop where
  option_eq : x.option = e.givenOption x.name x.origin
  get?_of_bundled {package : String} (h : x.origin = .bundled package) :
    e.resolver.catalog.get? package = some x.rule
  tag_of_file {file : Path} (h : x.origin = .file file) : x.rule.tag = none
  tag_of_plugin {name : String} {file : Path} (h : x.origin = .plugin name file) :
    x.rule.tag = none

/-- The entry for a specifier that hands in an object. -/
def objectEntry? (e : Engine) : Specifier → Option RuleEntry
  | .object name rule => some (e.entry ⟨Naming.normalizeRule name, rule, .object⟩)
  | _ => none

/-- The entries for the objects that were added, in order. -/
def objects (e : Engine) : List RuleEntry :=
  e.added.filterMap e.objectEntry?

/-- The entry that a request is for, if it is for an object. -/
def object? : Request → Option RuleEntry
  | .ok x => if x.origin = .object then some x else none
  | .error _ => none

/-! ### Options and rules -/

/-- The entry of a rule of a module. -/
theorem isMade_of_isModule {found : ResolvedRule} (h : found.IsModule) :
    e.IsMade (e.entry found) := by
  obtain ⟨htag, file, hfile⟩ := h
  have horigin : (e.entry found).origin = .file file := hfile
  exact
    { option_eq := by rw [horigin]; rfl
      get?_of_bundled := fun hbundled => nomatch horigin.symm.trans hbundled
      tag_of_file := fun _ => htag
      tag_of_plugin := fun _ => htag }

/-- The entry of a rule that was found. -/
theorem isMade_of_resolve {spec : Specifier} {found : ResolvedRule}
    (h : e.resolver.resolve files e.base? spec = .ok found) : e.IsMade (e.entry found) := by
  rcases Resolver.resolve_cases h with (hmodule | ⟨package, -, hbundled⟩) | ⟨name, rule, -, rfl⟩
  · exact isMade_of_isModule hmodule
  · have horigin : (e.entry found).origin = .bundled package := hbundled
    exact
      { option_eq := by rw [horigin]; rfl
        get?_of_bundled := fun hpackage => Resolver.get?_of_resolve h hpackage
        tag_of_file := fun hfile => nomatch horigin.symm.trans hfile
        tag_of_plugin := fun hplugin => nomatch horigin.symm.trans hplugin }
  · -- Of an object that was handed in only the option is known.
    exact ⟨rfl, Origin.noConfusion, Origin.noConfusion, Origin.noConfusion⟩

/-- An entry of a plugin. -/
theorem isMade_of_mem_entries {text : String} {b : PluginBundle}
    (h : Plugins.resolve files e.pluginHome e.base? text = .ok b) (hx : x ∈ Plugins.entries b) :
    e.IsMade x := by
  have horigin := Plugins.origin_of_mem_entries hx
  have htag := Plugins.tag_eq_none_of_resolve h x hx
  exact
    { option_eq := by rw [horigin, Plugins.option_of_mem_entries hx]; rfl
      get?_of_bundled := fun hbundled => nomatch horigin.symm.trans hbundled
      tag_of_file := fun _ => htag
      tag_of_plugin := fun _ => htag }

theorem isMade_of_ruleRequest {spec : Specifier} (h : e.ruleRequest files spec = .ok x) :
    e.IsMade x := by
  obtain ⟨found, hfound, rfl⟩ := ruleRequest_eq_ok_iff.1 h
  exact isMade_of_resolve hfound

/-- The entries that an engine asks for. -/
theorem isMade_of_mem_requests (h : .ok x ∈ e.requests files) : e.IsMade x := by
  rw [requests, List.mem_append] at h
  rcases h with hconfigured | hadded
  · rcases mem_configuredRequests_cases hconfigured with ⟨text, found, hfound, rfl⟩ |
      ⟨dir, all, found, hall, hfound, rfl⟩ | ⟨text, b, hb, hx⟩
    · exact isMade_of_resolve hfound
    · exact isMade_of_isModule (Resolver.isModule_of_resolveDirectory hall found hfound)
    · exact isMade_of_mem_entries hb hx
  · obtain ⟨spec, -, hx⟩ := List.mem_flatMap.1 hadded
    exact isMade_of_ruleRequest (List.mem_singleton.1 hx).symm

/-- What setting up registers was asked for. -/
theorem mem_requests_of_get?_setUp {s : State} {name : String}
    (h : (exec (setUp files) s).2.registry.get? name = some x) :
    s.registry.get? name = some x ∨ .ok x ∈ s.engine.requests files := by
  cases hs : s.engine.isSetUp with
  | true =>
    rw [exec_setUp_of_isSetUp hs] at h
    exact .inl h
  | false =>
    -- The requests are served, and what they add was asked for.
    rw [show s = ⟨s.engine, s.registry⟩ from rfl, registry_exec_setUp hs] at h
    exact Registry.mem_of_get?_serve h

/-- What adding a rule registers was asked for when the engine was set up, or is the rule. -/
theorem mem_requests_of_get?_addRule {s : State} {name : String} {spec : Specifier}
    (h : (exec (addRule files spec) s).2.registry.get? name = some x) :
    s.registry.get? name = some x ∨ .ok x ∈ s.engine.requests files ∨
      s.engine.ruleRequest files spec = .ok x := by
  obtain ⟨hgrows, -⟩ := grows_setUp files s
  have hset {y : RuleEntry} := @mem_requests_of_get?_setUp files y s name
  rcases hsetUp : exec (setUp files) s with ⟨err | ⟨⟩, s₁⟩ <;> rw [hsetUp] at hgrows hset
  · rw [addRule, exec_bind_of_error hsetUp] at h
    exact (hset h).imp_right .inl
  rw [registry_exec_addRule hsetUp] at h
  rcases Registry.mem_of_get?_serve h with hbefore | hmem
  · exact (hset hbefore).imp_right .inl
  · -- Setting up changes nothing of the engine on which its requests depend.
    rw [hgrows.engine_eq] at hmem
    exact .inr (.inr (List.mem_singleton.1 hmem).symm)

/-- What setting up registers is made by the engine. -/
theorem isMade_of_get?_setUp {s : State} {name : String}
    (h : (exec (setUp files) s).2.registry.get? name = some x) :
    s.registry.get? name = some x ∨ s.engine.IsMade x :=
  (mem_requests_of_get?_setUp h).imp_right isMade_of_mem_requests

/-- What adding a rule registers is made by the engine. -/
theorem isMade_of_get?_addRule {s : State} {name : String} {spec : Specifier}
    (h : (exec (addRule files spec) s).2.registry.get? name = some x) :
    s.registry.get? name = some x ∨ s.engine.IsMade x := by
  rcases mem_requests_of_get?_addRule h with hbefore | hmem | hspec
  · exact .inl hbefore
  · exact .inr (isMade_of_mem_requests hmem)
  · exact .inr (isMade_of_ruleRequest hspec)

/-- What a call registers is made by the engine. -/
theorem isMade_of_get?_call {s : State} {name : String} {c : Call}
    (h : (exec (c.step files) s).2.registry.get? name = some x) :
    s.registry.get? name = some x ∨ s.engine.IsMade x := by
  cases c with
  | setUp =>
    rw [Call.step, exec_map] at h
    exact isMade_of_get?_setUp h
  | addRule spec =>
    rw [Call.step, exec_map] at h
    exact isMade_of_get?_addRule h
  | lint target =>
    rw [Call.step, exec_map, exec_lint] at h
    exact isMade_of_get?_setUp h
  | reset =>
    have hnone : (exec (Call.step files .reset) s).2.registry.get? name = none :=
      Registry.get?_empty name
    rw [hnone] at h
    cases h

/-- What a call registers under a name that was free is made by the engine. -/
theorem isMade_of_get?_eq_none {s : State} {name : String} {c : Call}
    (hfree : s.registry.get? name = none)
    (h : (exec (c.step files) s).2.registry.get? name = some x) : s.engine.IsMade x := by
  refine (isMade_of_get?_call h).resolve_left fun hold => ?_
  rw [hfree] at hold
  cases hold

/-! ### Objects -/

theorem object?_eq_some_iff {q : Request} :
    object? q = some x ↔ q = .ok x ∧ x.origin = .object := by
  cases q with
  | error err => simp [object?]
  | ok y =>
    rw [object?]
    split
    · next hy =>
      constructor
      · rintro h
        cases h
        exact ⟨rfl, hy⟩
      · rintro ⟨h, -⟩
        rw [Except.ok.inj h]
    · next hy =>
      constructor
      · rintro ⟨⟩
      · rintro ⟨h, hx⟩
        rw [Except.ok.inj h] at hy
        exact absurd hx hy

/-- What is not an object is not found as one. -/
theorem object?_entry_eq_none {found : ResolvedRule} (h : found.origin ≠ .object) :
    object? (.ok (e.entry found)) = none :=
  if_neg h

/-- A request for a rule is for an object if the specifier hands one in. -/
theorem object?_ruleRequest (files : FileTree) (e : Engine) (spec : Specifier) :
    object? (e.ruleRequest files spec) = e.objectEntry? spec := by
  rw [ruleRequest]
  cases hfound : e.resolver.resolve files e.base? spec with
  | error err =>
    cases spec with
    | name name => rfl
    | path path => rfl
    | object name rule => cases hfound
  | ok found =>
    rcases Resolver.resolve_cases hfound with hlooked | ⟨name, rule, rfl, rfl⟩
    · -- What was looked for is no object, and neither was the specifier.
      have horigin : found.origin ≠ .object := by
        rcases hlooked with ⟨-, file, hfile⟩ | ⟨package, -, hbundled⟩
        · simp [hfile]
        · simp [hbundled]
      refine (object?_entry_eq_none horigin).trans ?_
      cases spec with
      | name name => rfl
      | path path => rfl
      | object name rule =>
        cases hfound
        exact absurd rfl horigin
    · rfl

/-- A configuration asks for no objects. -/
theorem object?_eq_none_of_mem_configuredRequests {q : Request}
    (h : q ∈ e.configuredRequests files) : object? q = none := by
  cases q with
  | error err => rfl
  | ok x =>
    refine if_neg ?_
    rcases mem_configuredRequests_cases h with ⟨text, found, hfound, rfl⟩ |
      ⟨dir, all, found, hall, hfound, rfl⟩ | ⟨text, b, -, hx⟩
    · rcases Resolver.resolve_cases hfound with (⟨-, file, hfile⟩ | ⟨package, -, hbundled⟩) |
        ⟨name, rule, hobject, -⟩
      · simp [entry, hfile]
      · simp [entry, hbundled]
      · exact absurd hobject (Specifier.ofText_ne_object text name rule)
    · obtain ⟨-, file, hfile⟩ := Resolver.isModule_of_resolveDirectory hall found hfound
      simp [entry, hfile]
    · simp [Plugins.origin_of_mem_entries hx]

/-- The objects that an engine asks for are those that were added. -/
theorem filterMap_object?_requests (files : FileTree) (e : Engine) :
    (e.requests files).filterMap object? = e.objects := by
  have hconfigured : (e.configuredRequests files).filterMap object? = [] :=
    List.filterMap_eq_nil_iff.2 fun _ => object?_eq_none_of_mem_configuredRequests
  rw [requests, List.filterMap_append, hconfigured, List.nil_append, ← List.map_eq_flatMap,
    List.filterMap_map, objects]
  exact List.filterMap_congr fun spec _ => object?_ruleRequest files e spec

/-- If the first entry of a name among those that an engine asks for is for an object, it is the
first object of that name that was added. -/
theorem find?_objects {items : List RuleEntry} (hitems : items.map .ok <+: e.requests files)
    (horigin : x.origin = .object) (h : items.find? (·.name == x.name) = some x) :
    e.objects.find? (·.name == x.name) = some x := by
  have hbegin := hitems.filterMap object?
  rw [filterMap_object?_requests, List.filterMap_map] at hbegin
  obtain ⟨hname, before, after, rfl, hbefore⟩ := List.find?_eq_some_iff_append.1 h
  refine hbegin.find?_eq_some ?_
  -- What comes before the entry has other names, and so has what is left of it.
  have hleft : (before.filterMap (object? ∘ .ok)).find? (·.name == x.name) = none := by
    rw [List.find?_eq_none]
    intro y hy
    obtain ⟨y', hy', heq⟩ := List.mem_filterMap.1 hy
    obtain ⟨hok, -⟩ := object?_eq_some_iff.1 heq
    rw [← Except.ok.inj hok]
    simpa using hbefore y' hy'
  have hx : (object? ∘ .ok) x = some x := if_pos horigin
  rw [List.filterMap_append, List.find?_append, hleft, List.filterMap_cons_some hx,
    Option.none_or]
  exact List.find?_cons_of_pos hname

end Engine

end ProseLinter
