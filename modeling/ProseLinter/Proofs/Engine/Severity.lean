import ProseLinter.Proofs.Config.RuleOption
import ProseLinter.Proofs.Engine.ActiveRules
import ProseLinter.Proofs.Engine.Opened
import ProseLinter.Proofs.Engine.SideBySide
import ProseLinter.Proofs.Json.Ordered
import ProseLinter.Proofs.Rule.Known

/-!
# Severities and the options of rules

What a configuration says about the severity of a rule and what it says to the rule itself do not
get in each other's way. A rule that is switched off leaves its block out of every result and
nothing else. A severity beside the options of a rule changes the severity of its messages and
nothing else: the rule gets to see the same options, and what it finds does not depend on the
severity.

* `RuleOption.AddsSeverity.effect_eq` : what a severity adds to the effect of an option.
* `Fleet.ofEntry_bind_guard` and `Fleet.ofEntry_map_forced` : the rules that run then.
* `Fleet.severity_orthogonal_to_options` : what becomes of the results, in a run of any calls.
-/

namespace ProseLinter

open Engine

/-! ### Options -/

namespace RuleOption

/-- An option says the same as another and a severity besides: options get one beside them, and the
severity alone takes the place of what switches the rule on. -/
inductive AddsSeverity (text : String) : RuleOption → RuleOption → Prop
  | enabled : AddsSeverity text (.enabled true) (.severity text)
  | options {fields : List (String × Json)} (h : ∀ p ∈ fields, p.1 ≠ "severity") :
      AddsSeverity text (.options (.object fields))
        (.options (.object (Json.insertField "severity" (.string text) fields)))

variable {o o' : RuleOption} {text : String} {severity : Severity}

theorem SwitchesOff.effect_eq (h : o.SwitchesOff) : o.effect = none := by
  rw [effect, isEnabled_eq_false_iff.2 h]
  exact if_neg Bool.false_ne_true

/-- The rule gets to see the same options, and the severity is forced on its messages. -/
theorem AddsSeverity.effect_eq (h : o.AddsSeverity text o')
    (htext : (text, severity) ∈ Severity.written) :
    o'.effect = o.effect.map fun p => (p.1, some severity) := by
  have hoff := Severity.ne_off_of_mem_written htext
  have hparse := Severity.parse_of_mem_written htext
  cases h with
  | enabled =>
    simp [effect, isEnabled, severityName?, forRule, forced, hparse, hoff]
  | @options fields h =>
    -- No severity was written before, and the one that is written now is taken out for the rule.
    have hnone : (Json.object fields).field? "severity" = none := by
      simpa [Json.field?] using h
    have hsome := Json.field?_insertField "severity" (.string text) h
    have hrule : (RuleOption.options
          (.object (Json.insertField "severity" (.string text) fields))).forRule =
        (RuleOption.options (.object fields)).forRule := by
      rw [forRule, forRule, Json.filter_insertField "severity" _ h, Json.filter_ne_eq_self h]
    simp [effect, isEnabled, severityName?, forced, hnone, hsome, hrule, hparse, hoff,
      Json.asString?]

end RuleOption

/-- Options in which a rule has the given one. -/
def Config.optionsWith (c : Config) (name : String) (option : RuleOption) :
    List (String × RuleOption) :=
  (name, option) :: c.options.filter (·.1 != name)

theorem Config.lookup_optionsWith (c : Config) (name : String) (option : RuleOption) :
    (c.optionsWith name option).lookup name = some option := by
  simp [optionsWith]

/-- All other rules have the options that they had. -/
theorem Config.lookup_optionsWith_of_ne (c : Config) {name other : String} (h : other ≠ name)
    (option : RuleOption) : (c.optionsWith name option).lookup other = c.option? other := by
  rw [optionsWith, List.lookup_cons, beq_false_of_ne h]
  exact Catalog.lookup_filter_ne h

/-! ### Rules that do not look at the severity -/

namespace ActiveRule

open Executor

variable {a : ActiveRule}

/-- The block of a rule with a severity in the messages for its findings. The message for a failure
is left as it is. -/
def blockWith (a : ActiveRule) (severity : Severity) (d : Opened) : List Message :=
  (a.reported d).map (fun m => { m with severity }) ++ a.failed d

/-- A rule that does not look at the severity that is forced on it has this block. -/
theorem blockFor_forced (h : a.rule.IsKnown) (severity : Severity) (d : Opened) :
    blockFor { a with forced := some severity } d = a.blockWith severity d := by
  have hreport : reportOn { a with forced := some severity } d.document d.source d.filePath =
      a.reportOn d.document d.source d.filePath :=
    h.check_eq (a.context d.document d.source (LineIndex.ofText d.source) d.filePath) _
  rw [blockFor, blockWith, reported, reported, failed, failed, hreport, Rule.Report.messages,
    Rule.Report.messages, List.map_map]
  rfl

end ActiveRule

/-! ### Registries -/

namespace RuleEntry

/-- Two entries are of the same rule and have the same option, if it is not the rule of a name. -/
structure SameBut (n : String) (x y : RuleEntry) : Prop where
  sameRule : x.SameRule y
  option_eq (h : x.name ≠ n) : x.option = y.option

theorem congruence_sameBut (n : String) : Congruence (SameBut n) where
  refl x := ⟨congruence_sameRule.refl x, fun _ => rfl⟩
  name_eq h := h.sameRule.name_eq
  standsFor_eq he hx := congruence_sameRule.standsFor_eq he.sameRule hx.sameRule

end RuleEntry

/-- Outcomes that end alike for a relation of entries end alike for a wider one. -/
theorem EndsAlike.mono {R R' : RuleEntry → RuleEntry → Prop} {α β : Type} {out : Except LintError α}
    {out' : Except LintError β} (h : EndsAlike R out out') (hR : ∀ x y, R x y → R' x y) :
    EndsAlike R' out out' := by
  cases h with
  | ok a b => exact .ok a b
  | error err => exact .error err
  | conflict he hx => exact .conflict (hR _ _ he) (hR _ _ hx)

namespace Engine

variable {e : Engine} {r r' : Registry} {n : String} {options : List (String × RuleOption)}

/-- Options that differ for one rule make entries that differ in the option of that rule. -/
theorem relates_sameBut (h : ∀ m, m ≠ n → options.lookup m = e.config.option? m) :
    e.Relates (RuleEntry.SameBut n) options := by
  intro found
  refine ⟨⟨rfl, rfl, rfl⟩, fun hn => ?_⟩
  change (e.config.option? found.name).getD .default = (options.lookup found.name).getD .default
  rw [h found.name hn]

/-- With other options for one rule the engine runs the rules as it did, but for that rule; `f` says
what becomes of it. -/
theorem activeRules_eq_filterMap_of_sameBut (hr : r.Corresponds (RuleEntry.SameBut n) r')
    (h : ∀ m, m ≠ n → options.lookup m = e.config.option? m) {f : ActiveRule → Option ActiveRule}
    (hself : ∀ x x' : RuleEntry, x.SameRule x' → x.name = n →
      ActiveRule.ofEntry x' (options.lookup n) =
        (ActiveRule.ofEntry x (e.config.option? n)).bind f)
    (hother : ∀ active : ActiveRule, active.name ≠ n → f active = some active) :
    activeRules ⟨e.withOptions options, r'⟩ = (activeRules ⟨e, r⟩).filterMap f := by
  rw [activeRules_eq_filterMap, activeRules_eq_filterMap, ← hr.names_eq, List.filterMap_filterMap]
  refine List.filterMap_congr fun name _ => ?_
  rw [activeRule?, activeRule?]
  have hrel := hr.get?_rel name
  cases hx : r.get? name with
  | none =>
    rw [hr.get?_eq_none hx]
    rfl
  | some x =>
    obtain ⟨x', hx', hsame⟩ := hr.exists_get? hx
    rw [hx', Option.bind_some, Option.bind_some, ← hsame.sameRule.name_eq]
    change ActiveRule.ofEntry x' (options.lookup x.name) = _
    by_cases hn : x.name = n
    · rw [hn]
      exact hself x x' hsame.sameRule hn
    · -- Any other rule has the option that it had, be it the engine's own or the one that is kept.
      have hactive : ActiveRule.ofEntry x' (options.lookup x.name) =
          ActiveRule.ofEntry x (e.config.option? x.name) := by
        rw [h x.name hn]
        refine ((ActiveRule.ofEntry_eq_iff hsame.sameRule _).2 fun _ => ?_).symm
        rw [hsame.option_eq hn]
      rw [hactive]
      cases hofEntry : ActiveRule.ofEntry x (e.config.option? x.name) with
      | none => rfl
      | some active =>
        have hname : active.name ≠ n := by
          rw [ActiveRule.name_of_ofEntry hofEntry]
          exact hn
        exact (hother active hname).symm

end Engine

namespace Fleet

variable {ι : Type} [DecidableEq ι] {files : FileTree} {w : Fleet ι} {a : ι} {n : String}
  {options : List (String × RuleOption)}

/-- Calls leave the parsers of an engine as they are. -/
theorem parsers_after (files : FileTree) (w : Fleet ι) (i : ι) (history : List (ι × Call)) :
    ((w.after files history).engines i).parsers = (w.engines i).parsers := by
  obtain ⟨isSetUp, hengine⟩ := exists_engines_after_eq files w i history
  rw [hengine]

/-- The answer of an engine that lints, in terms of what was opened. -/
theorem answer_eq_resultsOf {history : List (ι × Call)} {target : Target} {answer : Answer}
    (h : ((w.after files history).call files a (.lint target)).1 = .ok answer) :
    answer = .results (target.resultsOf files (w.engines a).parsers fun d =>
      (activeRules (((w.after files history).call files a (.lint target)).2.state a)).flatMap
        (·.blockFor d)) := by
  have hparsers := parsers_after files w a (history ++ [(a, .lint target)])
  rw [after_concat] at hparsers
  rw [eq_results_of_call_lint h, Target.results_eq_resultsOf]
  simp only [state, hparsers]

/-- When an engine is given other options for one rule, and `f` says what this makes of the rule,
then linting fails as it did or gives the results of the rules that `f` leaves. -/
theorem lint_with_other_options (files : FileTree) (w : Fleet ι)
    (h : ∀ m, m ≠ n → options.lookup m = (w.engines a).config.option? m)
    {f : ActiveRule → Option ActiveRule}
    (hself : ∀ x x' : RuleEntry, x.SameRule x' → x.name = n →
      ActiveRule.ofEntry x' (options.lookup n) =
        (ActiveRule.ofEntry x ((w.engines a).config.option? n)).bind f)
    (hother : ∀ active : ActiveRule, active.name ≠ n → f active = some active)
    (history : List (ι × Call)) (target : Target) :
    let out := (w.after files history).call files a (.lint target)
    let out' := ((w.withOptions a options).after files history).call files a (.lint target)
    out.2.registry.Corresponds (RuleEntry.SameBut n) out'.2.registry ∧
      (∀ err, out.1 = .error err ↔ out'.1 = .error err) ∧
      ∀ answer, out.1 = .ok answer →
        out'.1 = .ok (.results (target.resultsOf files (w.engines a).parsers fun d =>
          ((activeRules (out.2.state a)).filterMap f).flatMap (·.blockFor d))) := by
  intro out out'
  have hR := RuleEntry.congruence_sameBut n
  have hrelates : (w.engines a).Relates (RuleEntry.SameBut n) options := relates_sameBut h
  have hafter : SideBySide (RuleEntry.SameBut n) a options (w.after files history)
      ((w.withOptions a options).after files history) :=
    (sideBySide_withOptions hR w a options).after hR hrelates history
  have hconfig : ((w.after files history).engines a).config = (w.engines a).config :=
    config_after a history
  obtain ⟨hends, hout⟩ : EndsAlike (RuleEntry.SameBut n) out.1 out'.1 ∧
      SideBySide (RuleEntry.SameBut n) a options out.2 out'.2 :=
    hafter.call hR (hrelates.of_config_eq hconfig) a (.lint target)
  have herror := (hends.mono fun _ _ hxy => hxy.sameRule).eq_error_iff
  refine ⟨hout.corresponds, herror, fun answer hanswer => ?_⟩
  cases hanswer' : out'.1 with
  | error err =>
    rw [(herror err).2 hanswer'] at hanswer
    cases hanswer
  | ok answer' =>
    -- Linting is one more call, so the engine has the configuration that it had at first.
    have hconfig : (out.2.engines a).config = (w.engines a).config := by
      have hconcat : ((w.after files (history ++ [(a, .lint target)])).engines a).config = _ :=
        config_after a _
      rwa [after_concat] at hconcat
    have hrules : activeRules (out'.2.state a) = (activeRules (out.2.state a)).filterMap f := by
      rw [state, hout.engine_self]
      refine activeRules_eq_filterMap_of_sameBut hout.corresponds ?_ ?_ hother
      · rw [hconfig]
        exact h
      · rw [hconfig]
        exact hself
    have hparsers : ((w.withOptions a options).engines a).parsers = (w.engines a).parsers :=
      congrArg (·.parsers) (sideBySide_withOptions hR w a options).engine_self
    rw [answer_eq_resultsOf hanswer', hparsers, hrules]

/-- A rule that is switched off does not run. -/
theorem ofEntry_bind_guard {x x' : RuleEntry} {o : RuleOption} (ho : o.SwitchesOff)
    (hn : x.name = n) (option? : Option RuleOption) :
    ActiveRule.ofEntry x' (some o) =
      (ActiveRule.ofEntry x option?).bind (Option.guard (·.name != n)) := by
  rw [ActiveRule.ofEntry_eq_map_effect x', Option.getD_some, ho.effect_eq, Option.map_none]
  cases hactive : ActiveRule.ofEntry x option? with
  | none => rfl
  | some active =>
    -- What ran was the rule of that name.
    have hname : active.name = n := (ActiveRule.name_of_ofEntry hactive).trans hn
    simp [Option.guard, hname]

/-- A rule that is given a severity runs as it did, with the severity forced on it. -/
theorem ofEntry_map_forced {x x' : RuleEntry} (hsame : x.SameRule x') (hn : x.name = n)
    {o o' : RuleOption} {text : String} {severity : Severity}
    (htext : (text, severity) ∈ Severity.written) (h : o.AddsSeverity text o') :
    ActiveRule.ofEntry x' (some o') =
      (ActiveRule.ofEntry x (some o)).map fun active =>
        if active.name = n then { active with forced := some severity } else active := by
  rw [ActiveRule.ofEntry_eq_map_effect x', ActiveRule.ofEntry_eq_map_effect x, Option.getD_some,
    Option.getD_some, h.effect_eq htext, Option.map_map, Option.map_map]
  congr 1
  funext p
  simp [← hsame.name_eq, ← hsame.rule_eq, hn]

/-- The rules that run are those of entries of the registry. -/
theorem exists_entry_of_mem_activeRules {s : State} {active : ActiveRule}
    (h : active ∈ activeRules s) :
    ∃ x ∈ s.registry.entries, active.name = x.name ∧ active.rule = x.rule := by
  obtain ⟨x, hx, hactive⟩ := List.mem_filterMap.1 h
  refine ⟨x, hx, ActiveRule.name_of_ofEntry hactive, ?_⟩
  rw [ActiveRule.ofEntry_eq_map_effect] at hactive
  obtain ⟨p, -, rfl⟩ := Option.map_eq_some_iff.1 hactive
  rfl

/-- The option of one engine for one rule is replaced, any calls are made, and the engine lints. It
fails as it did before, or it gives results for the same places.
If the option switches the rule off, each result is what it was without the block of the rule, the
message for its failure included.
If the option adds a severity to the one before, and the rule is one of the library or a pattern
rule, each result is what it was with the severity in the messages for the findings of the rule. -/
theorem severity_orthogonal_to_options (files : FileTree) (w : Fleet ι) (a : ι) (n : String)
    (history : List (ι × Call)) (target : Target) :
    let run (w : Fleet ι) := (w.after files history).call files a (.lint target)
    let setting (o : RuleOption) := w.withOptions a ((w.engines a).config.optionsWith n o)
    let rules := activeRules ((run w).2.state a)
    let report := target.resultsOf files (w.engines a).parsers
    (∀ answer, (run w).1 = .ok answer →
      answer = .results (report fun d => rules.flatMap (·.blockFor d))) ∧
    (∀ o, RuleOption.SwitchesOff o →
      (run w).2.registry.Corresponds (RuleEntry.SameBut n) (run (setting o)).2.registry ∧
      (∀ err, (run w).1 = .error err ↔ (run (setting o)).1 = .error err) ∧
      ∀ answer, (run w).1 = .ok answer →
        (run (setting o)).1 = .ok (.results (report fun d =>
          (rules.filter (·.name != n)).flatMap (·.blockFor d)))) ∧
    ∀ text severity o o', (text, severity) ∈ Severity.written →
      RuleOption.AddsSeverity text o o' → (w.engines a).config.option? n = some o →
      (∀ x ∈ (run w).2.registry.entries, x.name = n → x.rule.IsKnown) →
        (run w).2.registry.Corresponds (RuleEntry.SameBut n) (run (setting o')).2.registry ∧
        (∀ err, (run w).1 = .error err ↔ (run (setting o')).1 = .error err) ∧
        ∀ answer, (run w).1 = .ok answer →
          (run (setting o')).1 = .ok (.results (report fun d => rules.flatMap fun active =>
            if active.name = n then active.blockWith severity d else active.blockFor d)) := by
  intro run setting rules report
  have hagree (o : RuleOption) : ∀ m, m ≠ n →
      ((w.engines a).config.optionsWith n o).lookup m = (w.engines a).config.option? m :=
    fun m hm => (w.engines a).config.lookup_optionsWith_of_ne hm o
  have hset (o : RuleOption) : ((w.engines a).config.optionsWith n o).lookup n = some o :=
    (w.engines a).config.lookup_optionsWith n o
  refine ⟨fun answer hanswer => answer_eq_resultsOf hanswer, ?_, ?_⟩
  · intro o ho
    obtain ⟨hregistry, herror, hok⟩ := lint_with_other_options files w (hagree o)
      (fun x x' _ hn => by rw [hset]; exact ofEntry_bind_guard ho hn _)
      (fun active hn => by simp [Option.guard, hn]) history target
    refine ⟨hregistry, herror, fun answer hanswer => ?_⟩
    have hresults := hok answer hanswer
    rwa [List.filterMap_eq_filter] at hresults
  · intro text severity o o' htext hadds ho hknown
    obtain ⟨hregistry, herror, hok⟩ := lint_with_other_options files w (hagree o')
      (fun x x' hsame hn => by
        rw [hset, ho, ofEntry_map_forced hsame hn htext hadds, Option.map_eq_bind])
      (fun active hn => by simp [hn]) history target
    refine ⟨hregistry, herror, fun answer hanswer => ?_⟩
    rw [hok answer hanswer]
    congr 2
    refine Target.resultsOf_congr fun d => ?_
    rw [List.filterMap_eq_map, List.flatMap_map]
    refine List.flatMap_congr fun active hactive => ?_
    obtain ⟨x, hx, hname, hrule⟩ := exists_entry_of_mem_activeRules hactive
    by_cases hn : active.name = n
    · rw [if_pos hn, if_pos hn]
      apply ActiveRule.blockFor_forced
      rw [hrule]
      exact hknown x hx (hname.symm.trans hn)
    · rw [if_neg hn, if_neg hn]

/-- An entry of a rule that is switched on. -/
def switchedOnEntry : RuleEntry :=
  { todoEntry with option := .enabled true }

/-- Engines that are set up with this rule only. -/
def switchedOn : Fleet Bool :=
  ⟨fun _ => { todoEngine with
      config := { rules := ["no-todo"], options := [("no-todo", .enabled true)] }, isSetUp := true },
    Registry.empty.append switchedOnEntry⟩

/-- The rule that they run. -/
def switchedOnRule : ActiveRule :=
  ⟨"no-todo", NoTodo.rule, .null, none⟩

theorem entries_switchedOn : switchedOn.registry.entries = [switchedOnEntry] := by
  have hentry : switchedOn.registry.get? switchedOnEntry.name = some switchedOnEntry := by
    rw [switchedOn, Registry.get?_append, if_pos rfl]
  change [switchedOnEntry.name].filterMap switchedOn.registry.get? = _
  rw [List.filterMap_cons_some hentry, List.filterMap_nil]

theorem activeRules_switchedOn : activeRules (switchedOn.state true) = [switchedOnRule] := by
  change switchedOn.registry.entries.filterMap _ = _
  rw [entries_switchedOn]
  rfl

/-- They are set up, so linting is no more than that. -/
theorem call_lint_switchedOn (target : Target) :
    (switchedOn.after ⟨[], []⟩ []).call ⟨[], []⟩ true (.lint target) =
      (.ok (.results (target.results ⟨[], []⟩ (switchedOn.state true))), switchedOn) :=
  call_lint_of_isSetUp ⟨[], []⟩ rfl target

/-- One of the engines lints. Where the rule is switched off instead there are no messages, and where
it is given a severity its messages have this. -/
theorem switchedOn_severity :
    let target : Target := .text "TODO: x" "txt"
    let lint (w : Fleet Bool) := (w.call ⟨[], []⟩ true (.lint target)).1
    let setting (o : RuleOption) := switchedOn.withOptions true
      ((switchedOn.engines true).config.optionsWith "no-todo" o)
    let report := target.resultsOf ⟨[], []⟩ (switchedOn.engines true).parsers
    (switchedOn.engines true).config.option? "no-todo" = some (.enabled true) ∧
      lint switchedOn = .ok (.results (report switchedOnRule.blockFor)) ∧
      lint (setting (.enabled false)) = .ok (.results (report fun _ => [])) ∧
      lint (setting (.severity "info")) =
        .ok (.results (report (switchedOnRule.blockWith .info))) := by
  intro target lint setting report
  have hlint := call_lint_switchedOn target
  have hrules : activeRules (((switchedOn.after ⟨[], []⟩ []).call ⟨[], []⟩ true
      (.lint target)).2.state true) = [switchedOnRule] := by
    rw [hlint]
    exact activeRules_switchedOn
  have hknown : ∀ x ∈ ((switchedOn.after ⟨[], []⟩ []).call ⟨[], []⟩ true
      (.lint target)).2.registry.entries, x.name = "no-todo" → x.rule.IsKnown := by
    rw [hlint, entries_switchedOn, List.forall_mem_singleton]
    have hbundled : Catalog.bundled.get? "kotolint-rule-no-todo" = some NoTodo.rule := rfl
    exact fun _ => .bundled hbundled rfl
  obtain ⟨hresults, hoff, hsevere⟩ :=
    severity_orthogonal_to_options ⟨[], []⟩ switchedOn true "no-todo" [] target
  have hok : ((switchedOn.after ⟨[], []⟩ []).call ⟨[], []⟩ true (.lint target)).1 = .ok _ :=
    congrArg Prod.fst hlint
  -- What the theorem says of the call as it is, with the rule off, and with a severity.
  have hreport := hresults _ hok
  have hnone := (hoff _ .disabled).2.2 _ hok
  have hinfo := (hsevere "info" .info _ _ (by decide) .enabled rfl hknown).2.2 _ hok
  rw [hrules] at hreport hnone hinfo
  refine ⟨rfl, ?_, ?_, ?_⟩
  · refine (hok.trans (congrArg Except.ok hreport)).trans ?_
    simp only [List.flatMap_singleton]
    rfl
  · exact hnone
  · refine hinfo.trans ?_
    simp only [List.flatMap_singleton]
    rfl

end Fleet

end ProseLinter
