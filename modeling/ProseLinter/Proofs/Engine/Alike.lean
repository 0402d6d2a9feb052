import ProseLinter.Proofs.Engine.Requests
import ProseLinter.Proofs.Loading.Resolution
import ProseLinter.Proofs.Registry.Outline

/-!
# Engines of one configuration

Engines of one configuration look in the same places, but each may hold objects of its own for the
rules of its catalog. What they ask for differs in these objects only. Within the requests of one
engine a name of the catalog always stands for the same package, so that requests for one name
which share an object also share their origin.

* `map_outline_requests_congr` : engines that are alike ask for entries of the same outlines.
* `originsAgree_requests` : requests of one engine for one name that stand for each other are of
  the same origin.
-/

namespace ProseLinter.Engine

variable {files : FileTree} {e e' : Engine}

/-- Two engines differ at most in the rules of their catalogs, not in their packages. -/
structure Alike (e e' : Engine) : Prop where
  config_eq : e.config = e'.config
  home_eq : e.resolver.home = e'.resolver.home
  contains_eq (package : String) :
    e.resolver.catalog.contains package = e'.resolver.catalog.contains package
  pluginHome_eq : e.pluginHome = e'.pluginHome
  added_eq : e.added = e'.added

/-- The outline of the entry for a name and an origin. -/
def outlineOf (e : Engine) (key : String × Origin) : String × Origin × RuleOption :=
  (key.1, key.2, (e.config.option? key.1).getD RuleOption.default)

/-- What a request asks for, beside the rule. -/
def requestOutline (q : Request) : Except LintError (String × Origin × RuleOption) :=
  q.map (·.outline)

/-- The entry of a rule that was looked for: that of a module, or that of the package that the
catalog has for its name. -/
def IsSourced (e : Engine) (x : RuleEntry) : Prop :=
  x.rule.tag = none ∨
    ∃ package, e.resolver.package? x.name = some package ∧ x.origin = .bundled package

/-- What an engine for a configuration holds. -/
theorem eq_of_ofConfig {config : Config} {resolver : Resolver} {pluginHome : Option Path}
    (h : ofConfig files config resolver pluginHome = .ok e) :
    e = { config, resolver, pluginHome, formatters := .empty
          parsers := Parsers.default.restrict config.extensions, added := [], isSetUp := false } := by
  unfold ofConfig at h
  cases hbase : config.rulesBaseDirectory with
  | none =>
    rw [hbase] at h
    cases h
    rfl
  | some dir =>
    rw [hbase] at h
    cases hdir : files.isDirectory dir with
    | true =>
      simp only [hdir] at h
      cases h
      rfl
    | false =>
      simp only [hdir] at h
      cases h

/-- Engines of one configuration that look in the same places are alike. -/
theorem alike_of_ofConfig {config : Config} {catalog catalog' : Catalog}
    {home pluginHome : Option Path}
    (h : ofConfig files config ⟨catalog, home⟩ pluginHome = .ok e)
    (h' : ofConfig files config ⟨catalog', home⟩ pluginHome = .ok e')
    (hcatalog : ∀ package, catalog.contains package = catalog'.contains package) :
    e.Alike e' := by
  rw [eq_of_ofConfig h, eq_of_ofConfig h']
  exact ⟨rfl, rfl, hcatalog, rfl, rfl⟩

/-! ### Outlines of requests -/

/-- The outline of a request for a rule depends on the name and origin of what is found. -/
theorem requestOutline_ruleRequest (files : FileTree) (e : Engine) (spec : Specifier) :
    requestOutline (e.ruleRequest files spec) =
      ((e.resolver.resolve files e.base? spec).map (·.key)).map e.outlineOf := by
  rw [ruleRequest]
  cases e.resolver.resolve files e.base? spec <;> rfl

theorem Alike.entry_eq (h : e.Alike e') : e.entry = e'.entry := by
  funext found
  rw [entry, entry, h.config_eq]

theorem Alike.base?_eq (h : e.Alike e') : e.base? = e'.base? := by
  rw [base?, base?, h.config_eq]

/-- Engines that are alike ask for rules of the same outlines. -/
theorem Alike.requestOutline_ruleRequest_eq (h : e.Alike e') (spec : Specifier) :
    requestOutline (e.ruleRequest files spec) = requestOutline (e'.ruleRequest files spec) := by
  have hkey := Resolver.resolve_map_key_congr files e'.base? h.home_eq h.contains_eq spec
  have houtline : e.outlineOf = e'.outlineOf := by
    funext key
    rw [outlineOf, outlineOf, h.config_eq]
  rw [requestOutline_ruleRequest, requestOutline_ruleRequest, h.base?_eq, hkey, houtline]

/-- Engines that are alike ask for the same rules of directories. -/
theorem Alike.directoryRequests_eq (h : e.Alike e') (dir : Path) :
    e.directoryRequests files dir = e'.directoryRequests files dir := by
  rw [directoryRequests, directoryRequests, h.entry_eq]

/-- Engines that are alike ask for the same rules of plugins. -/
theorem Alike.pluginRequests_eq (h : e.Alike e') (text : String) :
    e.pluginRequests files text = e'.pluginRequests files text := by
  rw [pluginRequests, pluginRequests, h.pluginHome_eq, h.base?_eq]

/-- Engines that are alike ask for entries of the same outlines in the same order. -/
theorem map_outline_requests_congr (h : e.Alike e') :
    (e.requests files).map requestOutline = (e'.requests files).map requestOutline := by
  simp only [requests, configuredRequests, List.map_append, List.map_flatMap, List.map_cons,
    List.map_nil, h.config_eq, h.added_eq, h.requestOutline_ruleRequest_eq,
    h.directoryRequests_eq, h.pluginRequests_eq]

/-- When the requests of one engine were served, each request of an engine with the same outlines is
for an entry too, with the outline of the entry that the other asked for at its place. -/
theorem exists_request_of_map_outline_eq {solo : Registry} {served other : List Request}
    (hsolo : Registry.empty.serve served = (.ok (), solo))
    (houtline : other.map requestOutline = served.map requestOutline) {d : Nat} {q : Request}
    (hq : other[d]? = some q) :
    ∃ x y, served[d]? = some (.ok x) ∧ q = .ok y ∧ y.outline = x.outline := by
  have hat : (served.map requestOutline)[d]? = some (requestOutline q) := by
    rw [← houtline, List.getElem?_map, hq, Option.map_some]
  rw [List.getElem?_map, Option.map_eq_some_iff] at hat
  obtain ⟨q', hq', heq⟩ := hat
  obtain ⟨x, rfl, -⟩ := Registry.provides_of_serve hsolo q' (List.mem_of_getElem? hq')
  cases q with
  | error e => cases heq
  | ok y => exact ⟨x, y, hq', rfl, (Except.ok.inj heq).symm⟩

/-! ### Origins of requests -/

theorem isSourced_of_resolve {spec : Specifier} {found : ResolvedRule}
    (h : e.resolver.resolve files e.base? spec = .ok found)
    (hspec : ∀ name rule, spec ≠ .object name rule) : e.IsSourced (e.entry found) := by
  rcases Resolver.resolve_cases h with (hmodule | hbundled) | ⟨name, rule, hobject, -⟩
  · exact .inl hmodule.1
  · exact .inr hbundled
  · exact absurd hobject (hspec name rule)

/-- What a configuration asks for is looked for. -/
theorem isSourced_of_mem_configuredRequests {x : RuleEntry}
    (h : .ok x ∈ e.configuredRequests files) : e.IsSourced x := by
  rcases mem_configuredRequests_cases h with ⟨text, found, hfound, rfl⟩ |
    ⟨dir, all, found, hall, hfound, rfl⟩ | ⟨text, b, hb, hx⟩
  · exact isSourced_of_resolve hfound (Specifier.ofText_ne_object text)
  · exact .inl (Resolver.isModule_of_resolveDirectory hall found hfound).1
  · exact .inl (Plugins.tag_eq_none_of_resolve hb x hx)

/-- Entries for one name that an engine looked for are of the same origin if they share an
object. -/
theorem IsSourced.origin_same {x y : RuleEntry} (hx : e.IsSourced x) (hy : e.IsSourced y)
    (hname : x.name = y.name) (h : x.standsFor y = true) : x.origin.same y.origin = true := by
  rw [RuleEntry.standsFor, Bool.or_eq_true] at h
  refine h.elim (fun hobject => ?_) id
  -- Only rules of the catalog can be one object, for those of modules were just made.
  rcases hx with htag | ⟨package, hpackage, horigin⟩
  · rw [Rule.sameObject, htag] at hobject
    cases hobject
  · rcases hy with htag | ⟨package', hpackage', horigin'⟩
    · rw [Rule.sameObject, htag] at hobject
      split at hobject
      · next heq => cases heq
      · cases hobject
    · -- Both come from the catalog, which has one package for the name.
      rw [hname, hpackage', Option.some_inj] at hpackage
      rw [horigin, horigin', hpackage, Origin.same_refl]

/-- Requests for one name that stand for each other are of the same origin, as long as no rules
were added. -/
theorem originsAgree_requests (h : e.added = []) :
    Registry.OriginsAgree (e.requests files) := by
  intro x y hx hy
  rw [requests, h, List.flatMap_nil, List.append_nil] at hx hy
  exact (isSourced_of_mem_configuredRequests hx).origin_same
    (isSourced_of_mem_configuredRequests hy)

end ProseLinter.Engine
