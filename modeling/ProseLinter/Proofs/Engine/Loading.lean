import ProseLinter.Proofs.Engine.Requests
import ProseLinter.Proofs.Loading.Resolution
import ProseLinter.Proofs.Registry.Source

/-!
# Which rule a load leaves

Every load of an engine registers what it found, and succeeds only if the registry accepts all of
it. So after a successful load the name of each rule that was found is bound to that very rule or to
one of the same source. The one exception is a rule object handed in under a name that holds another
object: it is accepted and dropped.

* `loads_honour_iff` states this for registering and for the four loads of an engine.
* `second_object_is_dropped` shows the exception.
-/

namespace ProseLinter.Engine

variable {files : FileTree} {s s' : State}

/-- A successful load of a rule registered the entry of the rule that was found. -/
theorem exists_enter_of_exec_loadRule {spec : Specifier} {name : String}
    (h : exec (loadRule files spec) s = (.ok name, s')) :
    ∃ found added, s.engine.resolver.resolve files s.engine.base? spec = .ok found ∧
      s.registry.enter (s.engine.entry found) = .ok (added, s'.registry) := by
  obtain ⟨r', hserve, rfl⟩ := (serves_loadRule s.registry spec).serve_of_exec h
  obtain ⟨x, added, hx, henter⟩ := Registry.serve_singleton_eq_ok_iff.1 hserve
  obtain ⟨found, hfound, rfl⟩ := ruleRequest_eq_ok_iff.1 hx
  exact ⟨found, added, hfound, henter⟩

/-- Adding a rule sets the engine up, loads the rule and remembers it. -/
theorem exec_addRule_eq_ok_iff {spec : Specifier} {name : String} :
    exec (addRule files spec) s = (.ok name, s') ↔
      ∃ s₁ s₂, exec (setUp files) s = (.ok (), s₁) ∧
        exec (loadRule files spec) s₁ = (.ok name, s₂) ∧
        s' = { s₂ with engine := { s₂.engine with added := s₂.engine.added ++ [spec] } } := by
  rw [addRule, exec_bind_eq_ok_iff]
  constructor
  · rintro ⟨⟨⟩, s₁, hsetUp, h⟩
    obtain ⟨name', s₂, hload, h⟩ := exec_bind_eq_ok_iff.1 h
    rw [exec_bind_of_ok (exec_modify _ _)] at h
    cases h
    exact ⟨s₁, s₂, hsetUp, hload, rfl⟩
  · rintro ⟨s₁, s₂, hsetUp, hload, rfl⟩
    refine ⟨(), s₁, hsetUp, ?_⟩
    rw [exec_bind_of_ok hload, exec_bind_of_ok (exec_modify _ _), exec_pure]

/-- After a rule was loaded it is honoured, unless its name held another object before. -/
theorem honours_iff_of_exec_loadRule {spec : Specifier} {name : String}
    (h : exec (loadRule files spec) s = (.ok name, s')) :
    ∃ found, s.engine.resolver.resolve files s.engine.base? spec = .ok found ∧
      (s'.registry.Honours (s.engine.entry found) ↔
        ¬ s.registry.HoldsOtherObject (s.engine.entry found)) := by
  obtain ⟨found, added, hfound, henter⟩ := exists_enter_of_exec_loadRule h
  exact ⟨found, hfound, Registry.enter_honours_iff henter⟩

/-- After a rule was added it is honoured, unless its name held another object once the engine was
set up. -/
theorem honours_iff_of_exec_addRule {spec : Specifier} {name : String}
    (h : exec (addRule files spec) s = (.ok name, s')) :
    ∃ s₁ found, exec (setUp files) s = (.ok (), s₁) ∧
      s₁.engine.resolver.resolve files s₁.engine.base? spec = .ok found ∧
      (s'.registry.Honours (s₁.engine.entry found) ↔
        ¬ s₁.registry.HoldsOtherObject (s₁.engine.entry found)) := by
  obtain ⟨s₁, s₂, hsetUp, hload, rfl⟩ := exec_addRule_eq_ok_iff.1 h
  obtain ⟨found, hfound, hiff⟩ := honours_iff_of_exec_loadRule hload
  exact ⟨s₁, found, hsetUp, hfound, hiff⟩

/-- After a directory was loaded all its rules are honoured. -/
theorem honours_of_exec_loadDirectory {dir : Path} {names : List String}
    (h : exec (loadDirectory files dir) s = (.ok names, s')) :
    ∃ all, Resolver.resolveDirectory files dir = .ok all ∧
      ∀ found ∈ all, s'.registry.Honours (s.engine.entry found) := by
  obtain ⟨r', hserve, rfl⟩ := (serves_loadDirectory s.registry dir).serve_of_exec h
  have hprovides := Registry.provides_of_serve hserve
  rw [directoryRequests] at hprovides
  cases hall : Resolver.resolveDirectory files dir with
  | error err =>
    -- The one request for a directory that cannot be read is never served.
    rw [hall] at hprovides
    obtain ⟨x, hx, -⟩ := hprovides _ (List.mem_singleton_self _)
    cases hx
  | ok all =>
    rw [hall] at hprovides
    refine ⟨all, rfl, fun found hfound => ?_⟩
    obtain ⟨x, hx, hprovided⟩ := hprovides _ (List.mem_map.2 ⟨found, hfound, rfl⟩)
    cases hx
    -- The rules of a directory come from files, so none of them is an object handed in.
    obtain ⟨-, file, horigin⟩ := Resolver.isModule_of_resolveDirectory hall found hfound
    refine hprovided.honours ?_
    rw [entry, horigin]
    exact Origin.noConfusion

/-- After a plugin was loaded all its rules are honoured. -/
theorem honours_of_exec_loadPlugin {text : String} {names : List String}
    (h : exec (loadPlugin files text) s = (.ok names, s')) :
    ∃ b, Plugins.resolve files s.engine.pluginHome s.engine.base? text = .ok b ∧
      ∀ x ∈ Plugins.entries b, s'.registry.Honours x := by
  obtain ⟨r', hserve, rfl⟩ := (serves_loadPlugin s.registry text).serve_of_exec h
  have hprovides := Registry.provides_of_serve hserve
  rw [pluginRequests] at hprovides
  cases hb : Plugins.resolve files s.engine.pluginHome s.engine.base? text with
  | error err =>
    rw [hb] at hprovides
    obtain ⟨x, hx, -⟩ := hprovides _ (List.mem_singleton_self _)
    cases hx
  | ok b =>
    rw [hb] at hprovides
    refine ⟨b, rfl, fun x hx => ?_⟩
    obtain ⟨y, hy, hprovided⟩ := hprovides _ (List.mem_map.2 ⟨x, hx, rfl⟩)
    cases hy
    refine hprovided.honours ?_
    rw [Plugins.origin_of_mem_entries hx]
    exact Origin.noConfusion

/-- A registration or load that succeeds leaves the name of each rule with that very rule or one of
the same source, except when the rule is an object handed in and the name held another one: then
the new object is dropped, and registering it reports no conflict. -/
theorem loads_honour_iff (files : FileTree) (s : State) :
    (∀ name rule origin option added r',
      s.registry.register name rule origin option = .ok (added, r') →
        (r'.Honours ⟨name, rule, origin, option⟩ ↔
          ¬ s.registry.HoldsOtherObject ⟨name, rule, origin, option⟩)) ∧
      (∀ name rule origin option,
        s.registry.HoldsOtherObject ⟨name, rule, origin, option⟩ →
          s.registry.register name rule origin option = .ok (false, s.registry)) ∧
      (∀ spec name s', exec (loadRule files spec) s = (.ok name, s') →
        ∃ found, s.engine.resolver.resolve files s.engine.base? spec = .ok found ∧
          (s'.registry.Honours (s.engine.entry found) ↔
            ¬ s.registry.HoldsOtherObject (s.engine.entry found))) ∧
      (∀ spec name s', exec (addRule files spec) s = (.ok name, s') →
        ∃ s₁ found, exec (setUp files) s = (.ok (), s₁) ∧
          s₁.engine.resolver.resolve files s₁.engine.base? spec = .ok found ∧
          (s'.registry.Honours (s₁.engine.entry found) ↔
            ¬ s₁.registry.HoldsOtherObject (s₁.engine.entry found))) ∧
      (∀ dir names s', exec (loadDirectory files dir) s = (.ok names, s') →
        ∃ all, Resolver.resolveDirectory files dir = .ok all ∧
          ∀ found ∈ all, s'.registry.Honours (s.engine.entry found)) ∧
      ∀ text names s', exec (loadPlugin files text) s = (.ok names, s') →
        ∃ b, Plugins.resolve files s.engine.pluginHome s.engine.base? text = .ok b ∧
          ∀ x ∈ Plugins.entries b, s'.registry.Honours x := by
  refine ⟨?_, ?_, ?_, ?_, ?_, ?_⟩
  · intro name rule origin option added r' h
    exact Registry.enter_honours_iff h
  · intro name rule origin option h
    exact h.enter_eq
  · intro spec name s' h
    exact honours_iff_of_exec_loadRule h
  · intro spec name s' h
    exact honours_iff_of_exec_addRule h
  · intro dir names s' h
    exact honours_of_exec_loadDirectory h
  · intro text names s' h
    exact honours_of_exec_loadPlugin h

/-- A rule object that reports nothing. -/
def silentObject (tag : Nat) : Rule where
  tag := some tag
  description := ""
  check _ := ⟨[], none⟩

/-- Two different objects under one name are both accepted, and the second one is dropped. -/
theorem second_object_is_dropped :
    ∃ r, Registry.empty.register "x" (silentObject 0) .object .default = .ok (true, r) ∧
      r.register "x" (silentObject 1) .object .default = .ok (false, r) ∧
      ¬ r.Honours ⟨"x", silentObject 1, .object, .default⟩ := by
  let r := Registry.empty.append ⟨"x", silentObject 0, .object, .default⟩
  have hget : r.get? "x" = some ⟨"x", silentObject 0, .object, .default⟩ := by
    rw [Registry.get?_append, if_pos rfl]
  -- The two differ in their tags, so they are neither equal nor the same object.
  have hne : ¬ (silentObject 0).Is (silentObject 1) := by
    rintro (heq | hsame)
    · have htag := congrArg Rule.tag heq
      cases htag
    · cases hsame
  have hother : r.HoldsOtherObject ⟨"x", silentObject 1, .object, .default⟩ :=
    ⟨_, hget, rfl, rfl, hne⟩
  refine ⟨r, Registry.enter_of_get?_eq_none (Registry.get?_empty "x"), hother.enter_eq, ?_⟩
  intro hhonours
  exact (Registry.provides_of_enter hother.enter_eq).honours_iff.1 hhonours hother

end ProseLinter.Engine
