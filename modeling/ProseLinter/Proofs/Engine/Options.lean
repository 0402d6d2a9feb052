import ProseLinter.Proofs.Engine.Call
import ProseLinter.Proofs.Registry.Correspondence

/-!
# Engines that differ in their options

The options of an engine go into the entries that it registers, and nowhere else when it loads: what
it looks for and in which order depends on the rest of it. An engine and the same engine with other
options therefore go through related states, as long as their registries correspond for a relation
of entries that does not mind the options.

* `forall₂_requests` : their requests are related one by one.
* `abreast_call` : every call leads from related states to related states.
* `call_corresponds` : a call of one engine on two corresponding registries.
-/

namespace ProseLinter.Engine

variable {R : RuleEntry → RuleEntry → Prop} {options : List (String × RuleOption)}
  {files : FileTree} {e : Engine} {r r' : Registry}

/-- The engine with other options of rules. -/
def withOptions (e : Engine) (options : List (String × RuleOption)) : Engine :=
  { e with config := { e.config with options } }

/-- The entries that an engine makes are related to those that it makes with other options. -/
def Relates (R : RuleEntry → RuleEntry → Prop) (options : List (String × RuleOption))
    (e : Engine) : Prop :=
  ∀ found, R (e.entry found) ((e.withOptions options).entry found)

/-- What a step leads to for an engine, and for the engine with other options. -/
structure Abreast (R : RuleEntry → RuleEntry → Prop) (options : List (String × RuleOption))
    {α β : Type} (out : Except LintError α × State) (out' : Except LintError β × State) :
    Prop where
  ends : EndsAlike R out.1 out'.1
  engine_eq : out'.2.engine = out.2.engine.withOptions options
  corresponds : out.2.registry.Corresponds R out'.2.registry

/-- An engine makes the same entries with the options that it has. -/
theorem relates_self (hR : RuleEntry.Congruence R) (e : Engine) : e.Relates R e.config.options :=
  fun _ => hR.refl _

/-- The entries of an engine depend on its configuration only. -/
theorem Relates.of_config_eq {e' : Engine} (h : e.Relates R options)
    (hconfig : e'.config = e.config) : e'.Relates R options := by
  intro found
  have hfound := h found
  unfold entry withOptions at hfound ⊢
  rwa [hconfig]

/-! ### Requests -/

section Requests

variable (files)

/-- The request for a rule is the same with other options but for the option of the entry. -/
theorem ruleRequest_withOptions (e : Engine) (options : List (String × RuleOption))
    (spec : Specifier) :
    (e.withOptions options).ruleRequest files spec =
      (e.ruleRequest files spec).map fun x =>
        { x with option := (options.lookup x.name).getD .default } := by
  change (e.resolver.resolve files e.base? spec).map (e.withOptions options).entry =
    ((e.resolver.resolve files e.base? spec).map e.entry).map _
  cases e.resolver.resolve files e.base? spec <;> rfl

theorem forall₂_ruleRequest (he : e.Relates R options) (spec : Specifier) :
    List.Forall₂ (Request.Corresponds R) [e.ruleRequest files spec]
      [(e.withOptions options).ruleRequest files spec] := by
  refine .cons ?_ .nil
  change Request.Corresponds R ((e.resolver.resolve files e.base? spec).map e.entry)
    ((e.resolver.resolve files e.base? spec).map (e.withOptions options).entry)
  cases e.resolver.resolve files e.base? spec with
  | error err => exact .error err
  | ok found => exact .ok (he found)

theorem forall₂_directoryRequests (he : e.Relates R options) (dir : Path) :
    List.Forall₂ (Request.Corresponds R) (e.directoryRequests files dir)
      ((e.withOptions options).directoryRequests files dir) := by
  unfold directoryRequests
  cases Resolver.resolveDirectory files dir with
  | error err => exact .cons (.error err) .nil
  | ok all =>
    rw [List.forall₂_map_left_iff, List.forall₂_map_right_iff, List.forall₂_same]
    intro found _
    exact .ok (he found)

/-- What a plugin asks for does not depend on the options of the engine. -/
theorem forall₂_pluginRequests (hR : RuleEntry.Congruence R) (e : Engine)
    (options : List (String × RuleOption)) (text : String) :
    List.Forall₂ (Request.Corresponds R) (e.pluginRequests files text)
      ((e.withOptions options).pluginRequests files text) := by
  change List.Forall₂ _ (e.pluginRequests files text) (e.pluginRequests files text)
  rw [List.forall₂_same]
  rintro (err | x) _
  · exact .error err
  · exact .ok (hR.refl x)

theorem forall₂_flatMap {α β : Type} {P : β → β → Prop} {f g : α → List β}
    (h : ∀ a, List.Forall₂ P (f a) (g a)) (items : List α) :
    List.Forall₂ P (items.flatMap f) (items.flatMap g) := by
  have hitems : List.Forall₂ Eq items items := List.forall₂_same.2 fun _ _ => rfl
  refine List.rel_flatMap hitems ?_
  rintro a _ rfl
  exact h a

/-- The requests of an engine are related one by one to those that it has with other options. -/
theorem forall₂_requests (hR : RuleEntry.Congruence R) (he : e.Relates R options) :
    List.Forall₂ (Request.Corresponds R) (e.requests files)
      ((e.withOptions options).requests files) := by
  have hrules := forall₂_flatMap (fun text => forall₂_ruleRequest files he (.ofText text))
    e.config.rules
  have hdirectories := forall₂_flatMap (forall₂_directoryRequests files he) e.config.rulePaths
  have hplugins := forall₂_flatMap (forall₂_pluginRequests files hR e options) e.config.plugins
  have hadded := forall₂_flatMap (forall₂_ruleRequest files he) e.added
  exact List.rel_append (List.rel_append hrules (List.rel_append hdirectories hplugins)) hadded

end Requests

/-! ### Steps -/

/-- What is done with related outcomes does not change how they end. -/
theorem Abreast.map {α β γ δ : Type} {out : Except LintError α × State}
    {out' : Except LintError β × State} (h : Abreast R options out out') (f : α → γ) (g : β → δ) :
    Abreast R options (out.1.map f, out.2) (out'.1.map g, out'.2) := by
  obtain ⟨end₁, s⟩ := out
  obtain ⟨end₂, s'⟩ := out'
  obtain ⟨hends, hengine, hr⟩ := h
  refine ⟨?_, hengine, hr⟩
  change EndsAlike R (end₁.map f) (end₂.map g)
  cases hends with
  | ok a b => exact .ok (f a) (g b)
  | error err => exact .error err
  | conflict he hx => exact .conflict he hx

/-- Steps with related outcomes, each followed by a step from where it led, have related outcomes
if the following ones have. -/
theorem Abreast.bind {α β γ δ : Type} {step : Step α} {step' : Step β} {next : α → Step γ}
    {next' : β → Step δ} {s s' : State} (h : Abreast R options (exec step s) (exec step' s'))
    (hnext : ∀ a b e r r', exec step s = (.ok a, ⟨e, r⟩) → r.Corresponds R r' →
      Abreast R options (exec (next a) ⟨e, r⟩) (exec (next' b) ⟨e.withOptions options, r'⟩)) :
    Abreast R options (exec (step >>= next) s) (exec (step' >>= next') s') := by
  obtain ⟨hends, hengine, hr⟩ := h
  rw [exec_bind, exec_bind]
  rcases hstep : exec step s with ⟨out, e, r⟩
  rcases hstep' : exec step' s' with ⟨out', e', r'⟩
  rw [hstep, hstep'] at hends hengine hr
  obtain rfl : e' = e.withOptions options := hengine
  cases hends with
  | ok a b =>
    -- Only after a success the next step runs.
    exact hnext a b e r r' hstep hr
  | error err => exact ⟨.error err, rfl, hr⟩
  | conflict he hx => exact ⟨.conflict he hx, rfl, hr⟩

/-- Steps that serve related requests on corresponding registries have related outcomes. -/
theorem Serves.abreast {α β : Type} {step : Step α} {step' : Step β} {q q' : List Request}
    (h : Serves step e r q) (h' : Serves step' (e.withOptions options) r' q')
    (hR : RuleEntry.Congruence R) (hq : List.Forall₂ (Request.Corresponds R) q q')
    (hr : r.Corresponds R r') :
    Abreast R options (exec step ⟨e, r⟩) (exec step' ⟨e.withOptions options, r'⟩) := by
  obtain ⟨hends, hleft⟩ := hr.serve hR hq
  rcases hserve : r.serve q with ⟨out, r₁⟩
  rcases hserve' : r'.serve q' with ⟨out', r₁'⟩
  rw [hserve, hserve'] at hends hleft
  cases hends with
  | ok a b =>
    obtain ⟨a, ha⟩ := h.ok hserve
    obtain ⟨b, hb⟩ := h'.ok hserve'
    rw [ha, hb]
    exact ⟨.ok a b, rfl, hleft⟩
  | error err =>
    rw [h.error hserve, h'.error hserve']
    exact ⟨.error err, rfl, hleft⟩
  | conflict he hx =>
    rw [h.error hserve, h'.error hserve']
    exact ⟨.conflict he hx, rfl, hleft⟩

/-! ### Calls -/

/-- Setting up leads to related states. -/
theorem abreast_setUp (hR : RuleEntry.Congruence R) (he : e.Relates R options)
    (hr : r.Corresponds R r') :
    Abreast R options (exec (setUp files) ⟨e, r⟩)
      (exec (setUp files) ⟨e.withOptions options, r'⟩) := by
  rw [setUp, exec_bind_of_ok (exec_get _), exec_bind_of_ok (exec_get _)]
  change Abreast R options (exec (if e.isSetUp = true then _ else _) _)
    (exec (if e.isSetUp = true then _ else _) _)
  split
  · exact ⟨.ok _ _, rfl, hr⟩
  · -- All requests are served, and then the engine is marked as set up.
    refine (Serves.abreast (serves_loadAll r) (serves_loadAll r') hR
      (forall₂_requests files hR he) hr).bind ?_
    intro _ _ e₁ r₁ r₁' _ hr₁
    exact ⟨.ok _ _, rfl, hr₁⟩

/-- Adding a rule leads to related states. -/
theorem abreast_addRule (hR : RuleEntry.Congruence R) (he : e.Relates R options)
    (hr : r.Corresponds R r') (spec : Specifier) :
    Abreast R options (exec (addRule files spec) ⟨e, r⟩)
      (exec (addRule files spec) ⟨e.withOptions options, r'⟩) := by
  refine (abreast_setUp hR he hr).bind ?_
  intro _ _ e₁ r₁ r₁' hsetUp hr₁
  -- Setting up keeps the configuration, so the entry of the rule is still related.
  have hconfig : e₁.config = e.config := by
    obtain ⟨hgrows, -⟩ := grows_setUp files ⟨e, r⟩
    have hengine := hgrows.engine_eq
    rw [hsetUp] at hengine
    exact congrArg (·.config) hengine
  refine (Serves.abreast (serves_loadRule r₁ spec) (serves_loadRule r₁' spec) hR
    (forall₂_ruleRequest files (he.of_config_eq hconfig) spec) hr₁).bind ?_
  intro name name' e₂ r₂ r₂' _ hr₂
  exact ⟨.ok name name', rfl, hr₂⟩

/-- Every call leads to related states. -/
theorem abreast_call (hR : RuleEntry.Congruence R) (he : e.Relates R options)
    (hr : r.Corresponds R r') (c : Call) :
    Abreast R options (exec (c.step files) ⟨e, r⟩)
      (exec (c.step files) ⟨e.withOptions options, r'⟩) := by
  cases c with
  | setUp =>
    rw [Call.step, exec_map, exec_map]
    exact (abreast_setUp hR he hr).map _ _
  | addRule spec =>
    rw [Call.step, exec_map, exec_map]
    exact (abreast_addRule hR he hr spec).map _ _
  | lint target =>
    rw [Call.step, exec_map, exec_map, exec_lint, exec_lint]
    exact ((abreast_setUp hR he hr).map _ _).map _ _
  | reset =>
    rw [exec_reset, exec_reset]
    exact ⟨.ok Answer.done Answer.done, rfl, Registry.corresponds_refl hR .empty⟩

/-- A call of one engine on corresponding registries ends alike, and leads to one engine and to
corresponding registries. -/
theorem call_corresponds (hR : RuleEntry.Congruence R) (hr : r.Corresponds R r') (e : Engine)
    (c : Call) :
    EndsAlike R (exec (c.step files) ⟨e, r⟩).1 (exec (c.step files) ⟨e, r'⟩).1 ∧
      (exec (c.step files) ⟨e, r'⟩).2.engine = (exec (c.step files) ⟨e, r⟩).2.engine ∧
      (exec (c.step files) ⟨e, r⟩).2.registry.Corresponds R
        (exec (c.step files) ⟨e, r'⟩).2.registry := by
  have h : Abreast R e.config.options (exec (c.step files) ⟨e, r⟩)
      (exec (c.step files) ⟨e, r'⟩) :=
    abreast_call hR (relates_self hR e) hr c
  refine ⟨h.ends, h.engine_eq.trans ?_, h.corresponds⟩
  -- The engine has these options already, for a call keeps its configuration.
  have hconfig : (exec (c.step files) ⟨e, r⟩).2.engine.config = e.config := config_call c _
  rw [withOptions, ← hconfig]

end ProseLinter.Engine
