import ProseLinter.Proofs.Engine.Call
import ProseLinter.Proofs.Registry.Correspondence

/-!
# The rules that run

An engine runs the rules of its registry with its own options; a rule for which it has none runs
with the option that the registry keeps for it. Of an option only its effect counts: whether the
rule is on, what it gets to see and which severity is forced on it.

* `activeRules_eq_iff` : on registries with the same rules an engine runs the same rules in the same
  way exactly if the options kept for rules that it does not configure have the same effects.
* `Target.results_congr` : the results of linting depend on the rules that run.
-/

namespace ProseLinter

/-- What an option does: nothing runs if it switches the rule off, and otherwise the rule gets to
see some options and may have a severity forced on it. -/
def RuleOption.effect (o : RuleOption) : Option (Json × Option Severity) :=
  if o.isEnabled then some (o.forRule, o.forced) else none

/-- Two entries are of the same rule, registered with any options. -/
structure RuleEntry.SameRule (x y : RuleEntry) : Prop where
  name_eq : x.name = y.name
  rule_eq : x.rule = y.rule
  origin_eq : x.origin = y.origin

/-- Whether an entry stands for another does not depend on their options. -/
theorem RuleEntry.congruence_sameRule : RuleEntry.Congruence RuleEntry.SameRule where
  refl _ := ⟨rfl, rfl, rfl⟩
  name_eq h := h.name_eq
  standsFor_eq he hx := by
    rw [standsFor, standsFor, he.rule_eq, he.origin_eq, hx.rule_eq, hx.origin_eq]

/-- A conflict of entries is the same error for entries of the same rules. -/
theorem EndsAlike.eq_error_iff {α β : Type} {a : Except LintError α} {b : Except LintError β}
    (h : EndsAlike RuleEntry.SameRule a b) (err : LintError) : a = .error err ↔ b = .error err := by
  cases h with
  | ok a b => simp
  | error err' => simp
  | conflict he hx => simp [he.origin_eq, hx.name_eq, hx.origin_eq]

namespace ActiveRule

/-- An active rule is what the effect of its option makes of an entry. -/
theorem ofEntry_eq_map_effect (x : RuleEntry) (option? : Option RuleOption) :
    ofEntry x option? =
      (option?.getD x.option).effect.map fun p => ⟨x.name, x.rule, p.1, p.2⟩ := by
  simp only [ofEntry, RuleOption.effect]
  split <;> rfl

/-- An entry with another option runs in the same way unless it is the option that is kept which
counts. -/
theorem ofEntry_eq_iff {x x' : RuleEntry} (h : x.SameRule x') (option? : Option RuleOption) :
    ofEntry x option? = ofEntry x' option? ↔
      (option? = none → x.option.effect = x'.option.effect) := by
  rw [ofEntry_eq_map_effect, ofEntry_eq_map_effect, h.name_eq, h.rule_eq]
  cases option? with
  | some option => simp
  | none =>
    -- The name and the rule are the same, so the active rules are if the effects are.
    have hinj : Function.Injective fun p : Json × Option Severity =>
        (⟨x'.name, x'.rule, p.1, p.2⟩ : ActiveRule) := by
      rintro ⟨options, forced⟩ ⟨options', forced'⟩ heq
      cases heq
      rfl
    simpa using (Option.map_injective hinj).eq_iff

/-- An active rule has the name of its entry. -/
theorem name_of_ofEntry {x : RuleEntry} {option? : Option RuleOption} {active : ActiveRule}
    (h : ofEntry x option? = some active) : active.name = x.name := by
  rw [ofEntry_eq_map_effect] at h
  obtain ⟨p, -, rfl⟩ := Option.map_eq_some_iff.1 h
  rfl

end ActiveRule

namespace Engine

variable {files : FileTree} {e : Engine} {r r' : Registry}

/-- Functions whose values tell where they came from are equal if their lists of values are. -/
theorem eq_of_filterMap_eq {α β : Type} {f g : α → Option β} {source : β → α} {items : List α}
    (hf : ∀ a b, f a = some b → source b = a) (hg : ∀ a b, g a = some b → source b = a)
    (h : items.filterMap f = items.filterMap g) : ∀ a ∈ items, f a = g a := by
  intro a ha
  -- A value in the list of one function is in that of the other, and comes from the same place.
  have hmem (b : β) : b ∈ items.filterMap f ↔ b ∈ items.filterMap g := by rw [h]
  ext b
  constructor
  · intro hb
    obtain ⟨a', -, hb'⟩ := List.mem_filterMap.1 ((hmem b).1 (List.mem_filterMap.2 ⟨a, ha, hb⟩))
    rwa [← hf a b hb, hg a' b hb']
  · intro hb
    obtain ⟨a', -, hb'⟩ := List.mem_filterMap.1 ((hmem b).2 (List.mem_filterMap.2 ⟨a, ha, hb⟩))
    rwa [← hg a b hb, hf a' b hb']

/-- The active rule of a name. -/
def activeRule? (e : Engine) (r : Registry) (name : String) : Option ActiveRule :=
  (r.get? name).bind fun x => ActiveRule.ofEntry x (e.config.option? x.name)

theorem activeRules_eq_filterMap (e : Engine) (r : Registry) :
    activeRules ⟨e, r⟩ = r.names.filterMap (e.activeRule? r) :=
  List.filterMap_filterMap ..

theorem name_of_activeRule? (hr : r.Consistent) {name : String} {active : ActiveRule}
    (h : e.activeRule? r name = some active) : active.name = name := by
  obtain ⟨x, hx, hactive⟩ := Option.bind_eq_some_iff.1 h
  rw [ActiveRule.name_of_ofEntry hactive, hr.name_eq hx]

/-- On registries with the same rules an engine runs the same rules in the same way exactly if, for
each rule that it does not configure, the options that the registries keep have the same effect. -/
theorem activeRules_eq_iff (hr : r.Consistent) (hr' : r'.Consistent)
    (h : r.Corresponds RuleEntry.SameRule r') :
    activeRules ⟨e, r⟩ = activeRules ⟨e, r'⟩ ↔
      ∀ x x', r.get? x.name = some x → r'.get? x.name = some x' →
        e.config.option? x.name = none → x.option.effect = x'.option.effect := by
  have hactive {x x' : RuleEntry} (hxx' : x.SameRule x') (hx : r.get? x.name = some x)
      (hx' : r'.get? x.name = some x') : e.activeRule? r x.name = e.activeRule? r' x.name ↔
        (e.config.option? x.name = none → x.option.effect = x'.option.effect) := by
    rw [activeRule?, activeRule?, hx, hx', Option.bind_some, Option.bind_some, ← hxx'.name_eq]
    exact ActiveRule.ofEntry_eq_iff hxx' _
  rw [activeRules_eq_filterMap, activeRules_eq_filterMap, ← h.names_eq]
  constructor
  · intro heq x x' hx hx'
    obtain ⟨x'', hx'', hsame⟩ := h.exists_get? hx
    cases hx'.symm.trans hx''
    have hname : x.name ∈ r.names := by
      rw [hr.mem_names_iff, Registry.contains_eq_isSome_get?, hx, Option.isSome_some]
    exact (hactive hsame hx hx').1 (eq_of_filterMap_eq (fun _ _ => name_of_activeRule? hr)
      (fun _ _ => name_of_activeRule? hr') heq x.name hname)
  · intro heffect
    -- Each name has an entry in both registries, and the two run in the same way.
    refine List.filterMap_congr fun name hname => ?_
    obtain ⟨x, hx⟩ := hr.exists_get? hname
    obtain rfl := hr.name_eq hx
    obtain ⟨x', hx', hsame⟩ := h.exists_get? hx
    exact (hactive hsame hx hx').2 (heffect x x' hx hx')

/-- The results of linting depend on the parsers of the engine and the rules that run. -/
theorem Target.results_congr {s s' : State} (hparsers : s.engine.parsers = s'.engine.parsers)
    (hrules : activeRules s = activeRules s') (target : Target) :
    target.results files s = target.results files s' := by
  cases target <;> simp only [results, hparsers, hrules]

end Engine

end ProseLinter
