import ProseLinter.Proofs.Engine.ActiveRules
import ProseLinter.Proofs.Engine.SideBySide
import ProseLinter.Proofs.Engine.Sources

/-!
# What the options of an engine do to other engines

An engine that registers a rule leaves the option that it has for the rule in the registry, and
every other engine that has no option of its own for the rule runs it with that one. Two runs of the
same calls, between which only the options of one engine differ, go through registries with the same
rules. What another engine reports may only differ by the rules that the first one registered, not
from a plugin, and that the other one does not configure.

* `Parallel.call` and `Parallel.after` : two runs that differ in the options of one engine.
* `Registers` : an engine registered a rule that is registered still.
* `option_eq_or_registers` : two such runs keep the same option for a rule unless the engine
  registered it.
* `results_agree` : what the options of one engine do to the results of another.
* `options_change_results` : they can switch off a rule that the other engine names.
-/

namespace ProseLinter.Fleet

open Engine

variable {ι : Type} [DecidableEq ι] {files : FileTree} {w w' : Fleet ι} {a b : ι}
  {options : List (String × RuleOption)}

/-- The engines are the same but for the options of one of them, and the registries have the same
rules. -/
structure Parallel (a : ι) (options : List (String × RuleOption)) (w w' : Fleet ι) : Prop where
  engine_self : w'.engines a = (w.engines a).withOptions options
  engine_of_ne {i : ι} (h : i ≠ a) : w'.engines i = w.engines i
  corresponds : w.registry.Corresponds RuleEntry.SameRule w'.registry

variable (files) in
/-- In a history an engine registered an entry under a name that was free, and no call has emptied
the registry since. -/
def Registers (w : Fleet ι) (history : List (ι × Call)) (i : ι) (x : RuleEntry) : Prop :=
  ∃ before c later, history = before ++ (i, c) :: later ∧
    (w.after files before).registry.get? x.name = none ∧
    ((w.after files before).call files i c).2.registry.get? x.name = some x ∧
    ∀ j, (j, Call.reset) ∉ later

variable (files) in
/-- Options of an engine do to another engine what its own ones do: they have the same effects on
the rules that it registered, not from a plugin, and that the other one does not configure. -/
def OptionsAgree (w : Fleet ι) (history : List (ι × Call)) (a b : ι)
    (options : List (String × RuleOption)) : Prop :=
  ∀ x, Registers files w history a x → x.origin.isPlugin = false →
    (w.engines b).config.option? x.name = none →
      (((w.engines a).config.option? x.name).getD .default).effect =
        ((options.lookup x.name).getD .default).effect

/-! ### Two runs -/

theorem parallel_withOptions (w : Fleet ι) (a : ι) (options : List (String × RuleOption)) :
    Parallel a options w (w.withOptions a options) where
  engine_self := Function.update_self ..
  engine_of_ne h := Function.update_of_ne h ..
  corresponds := Registry.corresponds_refl RuleEntry.congruence_sameRule _

/-- The options of an engine do not change which rules its entries are for. -/
theorem relates_sameRule (e : Engine) (options : List (String × RuleOption)) :
    e.Relates RuleEntry.SameRule options :=
  fun _ => ⟨rfl, rfl, rfl⟩

omit [DecidableEq ι] in
/-- Two runs are parallel when they are side by side, with entries of the same rules. -/
theorem parallel_iff_sideBySide :
    Parallel a options w w' ↔ SideBySide RuleEntry.SameRule a options w w' :=
  ⟨fun h => ⟨h.engine_self, h.engine_of_ne, h.corresponds⟩,
    fun h => ⟨h.engine_self, h.engine_of_ne, h.corresponds⟩⟩

/-- A call ends alike in both runs, which stay parallel. -/
theorem Parallel.call (h : Parallel a options w w') (i : ι) (c : Call) :
    EndsAlike RuleEntry.SameRule (w.call files i c).1 (w'.call files i c).1 ∧
      Parallel a options (w.call files i c).2 (w'.call files i c).2 := by
  obtain ⟨hends, hout⟩ : EndsAlike RuleEntry.SameRule (w.call files i c).1 (w'.call files i c).1 ∧
      SideBySide RuleEntry.SameRule a options (w.call files i c).2 (w'.call files i c).2 :=
    (parallel_iff_sideBySide.1 h).call RuleEntry.congruence_sameRule (relates_sameRule _ _) i c
  exact ⟨hends, parallel_iff_sideBySide.2 hout⟩

/-- Runs that are parallel stay so. -/
theorem Parallel.after (h : Parallel a options w w') (history : List (ι × Call)) :
    Parallel a options (w.after files history) (w'.after files history) :=
  parallel_iff_sideBySide.2 ((parallel_iff_sideBySide.1 h).after RuleEntry.congruence_sameRule
    (relates_sameRule _ _) history)

/-! ### Who registered a rule -/

/-- What an engine registered is registered still. -/
theorem Registers.get?_eq {history : List (ι × Call)} {x : RuleEntry}
    (h : Registers files w history a x) :
    (w.after files history).registry.get? x.name = some x := by
  obtain ⟨before, c, later, rfl, -, hbound, hlater⟩ := h
  rw [after_append]
  exact (extends_after hlater).get?_eq hbound

/-- An engine leaves its own option for the name with a rule that it registered, except for rules of
plugins. -/
theorem Registers.option_eq {history : List (ι × Call)} {x : RuleEntry}
    (h : Registers files w history a x) :
    x.option = (w.engines a).givenOption x.name x.origin := by
  obtain ⟨before, c, later, -, hfree, hbound, -⟩ := h
  have hmade : ((w.after files before).engines a).IsMade x := isMade_of_get?_eq_none hfree hbound
  have hoption := hmade.option_eq
  rw [givenOption, config_after] at hoption
  exact hoption

/-- What an engine registered is registered still after a call that is no reset. -/
theorem Registers.concat {history : List (ι × Call)} {x : RuleEntry}
    (h : Registers files w history a x) {i : ι} {c : Call} (hc : c ≠ .reset) :
    Registers files w (history ++ [(i, c)]) a x := by
  obtain ⟨before, c', later, rfl, hfree, hbound, hlater⟩ := h
  refine ⟨before, c', later ++ [(i, c)], by simp, hfree, hbound, fun j hj => ?_⟩
  rcases List.mem_append.1 hj with hj | hj
  · exact hlater j hj
  · exact hc (Prod.ext_iff.1 (List.mem_singleton.1 hj)).2.symm

/-- A call of another engine is not the one by which an engine registered a rule. -/
theorem Registers.of_concat {history : List (ι × Call)} {x : RuleEntry} {i : ι} {c : Call}
    (h : Registers files w (history ++ [(i, c)]) a x) (hi : i ≠ a) :
    Registers files w history a x := by
  obtain ⟨before, c', later, heq, hfree, hbound, hlater⟩ := h
  -- The call at the end is not the one that registered the entry, so it is one of those since.
  rcases List.eq_nil_or_concat later with rfl | ⟨later, p, rfl⟩
  · obtain ⟨-, hlast⟩ := List.append_inj' heq rfl
    exact absurd (Prod.ext_iff.1 (List.singleton_inj.1 hlast)).1 hi
  · rw [List.concat_eq_append, ← List.cons_append, ← List.append_assoc] at heq
    obtain ⟨hhistory, -⟩ := List.append_inj' heq rfl
    refine ⟨before, c', later, hhistory, hfree, hbound, fun j hj => hlater j ?_⟩
    rw [List.concat_eq_append]
    exact List.mem_append_left _ hj

/-- In a parallel run the engine registers the same rule. -/
theorem Registers.parallel {history : List (ι × Call)} {x : RuleEntry}
    (h : Registers files w history a x) (hw : Parallel a options w w') :
    ∃ x', x.SameRule x' ∧ Registers files w' history a x' := by
  obtain ⟨before, c, later, rfl, hfree, hbound, hlater⟩ := h
  have hbefore : Parallel a options (w.after files before) (w'.after files before) :=
    hw.after before
  obtain ⟨x', hx', hsame⟩ := ((hbefore.call a c).2.corresponds).exists_get? hbound
  rw [hsame.name_eq] at hx' hfree
  exact ⟨x', hsame, before, c, later, rfl, hbefore.corresponds.get?_eq_none hfree, hx', hlater⟩

/-! ### Options that are kept -/

/-- A rule that was registered by a call of another engine than the one whose options differ is
registered with the same option in both runs. -/
theorem Parallel.option_eq_of_call (h : Parallel a options w w') {i : ι} (hi : i ≠ a) {c : Call}
    {x x' : RuleEntry} (hfree : w.registry.get? x.name = none)
    (hx : (w.call files i c).2.registry.get? x.name = some x)
    (hx' : (w'.call files i c).2.registry.get? x.name = some x') : x.option = x'.option := by
  obtain ⟨x'', hx'', hsame⟩ := (h.call i c).2.corresponds.exists_get? hx
  cases hx'.symm.trans hx''
  -- Both entries are made by the engine, which is the same in both runs.
  have hmade : (w.engines i).IsMade x := isMade_of_get?_eq_none hfree hx
  have hmade' : (w'.engines i).IsMade x' :=
    isMade_of_get?_eq_none (h.corresponds.get?_eq_none hfree) hx'
  rw [hmade.option_eq, hmade'.option_eq, h.engine_of_ne hi, hsame.name_eq, hsame.origin_eq]

/-- Two runs that differ in the options of an engine keep the same option for a rule, unless the
engine registered it. -/
theorem option_eq_or_registers (w : Fleet ι) (a : ι) (options : List (String × RuleOption))
    (history : List (ι × Call)) {x x' : RuleEntry}
    (hx : (w.after files history).registry.get? x.name = some x)
    (hx' : ((w.withOptions a options).after files history).registry.get? x.name = some x') :
    x.option = x'.option ∨ Registers files w history a x := by
  induction history using List.reverseRecOn with
  | nil =>
    cases hx.symm.trans hx'
    exact .inl rfl
  | append_singleton history p ih =>
    obtain ⟨i, c⟩ := p
    have hparallel : Parallel a options (w.after files history)
        ((w.withOptions a options).after files history) :=
      (parallel_withOptions w a options).after history
    rw [after_concat] at hx hx'
    by_cases hc : c = .reset
    · -- After a reset no rule is registered.
      subst hc
      have hnone : ((w.after files history).call files i .reset).2.registry.get? x.name = none :=
        Registry.get?_empty _
      rw [hnone] at hx
      cases hx
    cases hfree : (w.after files history).registry.get? x.name with
    | some y =>
      -- The rule was registered before, in both runs.
      obtain ⟨y', hy', hsame⟩ := hparallel.corresponds.exists_get? hfree
      have hextends : (w.after files history).registry.Extends
          ((w.after files history).call files i c).2.registry := (grows_call hc).registry_extends
      have hextends' : ((w.withOptions a options).after files history).registry.Extends
          (((w.withOptions a options).after files history).call files i c).2.registry :=
        (grows_call hc).registry_extends
      cases hx.symm.trans (hextends.get?_eq hfree)
      cases hx'.symm.trans (hextends'.get?_eq hy')
      exact (ih hfree hy').imp_right fun h => h.concat hc
    | none =>
      -- This is the call that registers it.
      by_cases hi : i = a
      · subst hi
        exact .inr ⟨history, c, [], rfl, hfree, hx, fun _ => List.not_mem_nil⟩
      · exact .inl (hparallel.option_eq_of_call hi hfree hx hx')

/-- The options that two runs keep for a rule that the engine registered have the same effect exactly
if the rule is one of a plugin or the engine's options for it have. -/
theorem Registers.effect_eq_iff {history : List (ι × Call)} {x x' : RuleEntry}
    (h : Registers files w history a x)
    (hx' : ((w.withOptions a options).after files history).registry.get? x.name = some x') :
    x.option.effect = x'.option.effect ↔ (x.origin.isPlugin = false →
      (((w.engines a).config.option? x.name).getD .default).effect =
        ((options.lookup x.name).getD .default).effect) := by
  -- The entry of the other run was registered by the engine as well, with its other options.
  obtain ⟨y, hsame, hy⟩ := h.parallel (parallel_withOptions w a options)
  have hget := hy.get?_eq
  rw [← hsame.name_eq, hx'] at hget
  cases hget
  have hengine := (parallel_withOptions w a options).engine_self
  rw [h.option_eq, hy.option_eq, hengine, ← hsame.name_eq, ← hsame.origin_eq, givenOption,
    givenOption]
  cases x.origin.isPlugin with
  | true => simp
  | false => simp [Engine.withOptions, Config.option?]

/-- A call of another engine that is no reset changes nothing about whether the options agree. -/
theorem optionsAgree_concat_iff {history : List (ι × Call)} {i : ι} {c : Call} (hi : i ≠ a)
    (hc : c ≠ .reset) : OptionsAgree files w (history ++ [(i, c)]) a b options ↔
      OptionsAgree files w history a b options :=
  ⟨fun h x hx => h x (hx.concat hc), fun h x hx => h x (hx.of_concat hi)⟩

/-- Another engine runs the same rules in the same way in both runs exactly if the options agree. -/
theorem activeRules_eq_iff_optionsAgree (files : FileTree) (hb : b ≠ a) (hw : w.registry.Consistent)
    (options : List (String × RuleOption)) (history : List (ι × Call)) :
    activeRules ((w.after files history).state b) =
        activeRules (((w.withOptions a options).after files history).state b) ↔
      OptionsAgree files w history a b options := by
  have hparallel : Parallel a options (w.after files history)
      ((w.withOptions a options).after files history) :=
    (parallel_withOptions w a options).after history
  have hw' : (w.withOptions a options).registry.Consistent := hw
  rw [state, state, hparallel.engine_of_ne hb, activeRules_eq_iff (consistent_after hw history)
    (consistent_after hw' history) hparallel.corresponds, config_after]
  constructor
  · intro heffect x hx hplugin hnone
    obtain ⟨x', hx', -⟩ := hparallel.corresponds.exists_get? hx.get?_eq
    exact (hx.effect_eq_iff hx').1 (heffect x x' hx.get?_eq hx' hnone) hplugin
  · intro hagree x x' hx hx' hnone
    rcases option_eq_or_registers w a options history hx hx' with hoption | hregisters
    · rw [hoption]
    · exact (hregisters.effect_eq_iff hx').2 fun hplugin => hagree x hregisters hplugin hnone

/-! ### Two engines with one rule -/

/-- The entry of the rule with the option that it has among options. -/
def todoEntryWith (options : List (String × RuleOption)) : RuleEntry :=
  { todoEntry with option := (options.lookup "no-todo").getD .default }

/-- Setting up the first engine registers the rule with the option that the engine has for it. -/
theorem registry_todoPair_setUp (options : List (String × RuleOption)) :
    ((todoPair.withOptions true options).after ⟨[], []⟩ [(true, .setUp)]).registry =
      Registry.empty.append (todoEntryWith options) := by
  have hrequests : (todoEngine.withOptions options).requests ⟨[], []⟩ =
      [.ok (todoEntryWith options)] := by
    change [(todoEngine.withOptions options).ruleRequest ⟨[], []⟩ (.ofText "no-todo")] = _
    rw [ruleRequest_withOptions, ruleRequest_todoEngine]
    rfl
  have hfree : Registry.empty.get? (todoEntryWith options).name = none := Registry.get?_empty _
  change (exec (Call.step ⟨[], []⟩ .setUp) ⟨todoEngine.withOptions options, .empty⟩).2.registry = _
  rw [Call.step, exec_map, registry_exec_setUp rfl, hrequests,
    Registry.serve_cons_of_enter_eq_ok (Registry.enter_of_get?_eq_none hfree), Registry.serve]

/-- The second engine then lints with the rule as the first one registered it. -/
theorem call_todoPair_lint (options : List (String × RuleOption)) (target : Target) :
    (((todoPair.withOptions true options).after ⟨[], []⟩ [(true, .setUp)]).call ⟨[], []⟩ false
        (.lint target)).1 =
      .ok (.results (target.results ⟨[], []⟩
        ⟨{ todoEngine with isSetUp := true }, Registry.empty.append (todoEntryWith options)⟩)) := by
  have hstate : ((todoPair.withOptions true options).after ⟨[], []⟩ [(true, .setUp)]).state false =
      ⟨todoEngine, Registry.empty.append (todoEntryWith options)⟩ := by
    rw [state, registry_todoPair_setUp]
    rfl
  have hsetUp : exec (setUp ⟨[], []⟩)
      ⟨todoEngine, Registry.empty.append (todoEntryWith options)⟩ = (.ok (),
        ⟨{ todoEngine with isSetUp := true }, Registry.empty.append (todoEntryWith options)⟩) := by
    have hname : (todoEntryWith options).name = todoEntry.name := rfl
    have hbound : (Registry.empty.append (todoEntryWith options)).get? todoEntry.name =
        some (todoEntryWith options) := by
      rw [Registry.get?_append, if_pos hname]
    have hstands : (todoEntryWith options).standsFor todoEntry = true := by
      rw [RuleEntry.standsFor, Bool.or_eq_true]
      exact .inr (Origin.same_refl _)
    refine exec_setUp_of_serve_ok rfl ?_
    rw [requests_todoEngine,
      Registry.serve_cons_of_enter_eq_ok (Registry.enter_of_standsFor hbound hstands),
      Registry.serve]
  change (exec ((Call.lint target).step ⟨[], []⟩) (state _ false)).1 = _
  rw [hstate, Call.step, exec_map, exec_lint, hsetUp]
  rfl

/-- The rules that the second engine runs. -/
theorem activeRules_todoPair (options : List (String × RuleOption)) :
    activeRules ⟨{ todoEngine with isSetUp := true },
        Registry.empty.append (todoEntryWith options)⟩ =
      (ActiveRule.ofEntry (todoEntryWith options) none).toList := by
  have hentries : (Registry.empty.append (todoEntryWith options)).entries =
      [todoEntryWith options] :=
    Registry.consistent_empty.entries_append (Registry.get?_empty _)
  rw [activeRules, hentries]
  cases hactive : ActiveRule.ofEntry (todoEntryWith options) none with
  | none => exact List.filterMap_cons_none hactive
  | some active => exact List.filterMap_cons_some hactive

/-! ### Results -/

/-- Two runs of the same calls differ in the options of one engine, and then another engine lints.
Both times it lints on a registry with the same rules, or fails with the same error. It runs the
same rules in the same way exactly if the options have the same effect on each rule that the first
engine registered, not from a plugin, and that the other one does not configure; and then the
results are the same. -/
theorem results_agree (hb : b ≠ a) (hw : w.registry.Consistent)
    (options : List (String × RuleOption)) (history : List (ι × Call)) (target : Target) :
    let out := (w.after files history).call files b (.lint target)
    let out' := ((w.withOptions a options).after files history).call files b (.lint target)
    out.2.registry.Corresponds RuleEntry.SameRule out'.2.registry ∧
      (∀ err, out.1 = .error err ↔ out'.1 = .error err) ∧
      (activeRules (out.2.state b) = activeRules (out'.2.state b) ↔
        OptionsAgree files w history a b options) ∧
      (OptionsAgree files w history a b options → out.1 = out'.1) := by
  intro out out'
  have hparallel : Parallel a options (w.after files history)
      ((w.withOptions a options).after files history) :=
    (parallel_withOptions w a options).after history
  obtain ⟨hends, hout⟩ := hparallel.call b (.lint target)
  have hrules : activeRules (out.2.state b) = activeRules (out'.2.state b) ↔
      OptionsAgree files w history a b options := by
    -- Linting is one more call in the history.
    have hiff := activeRules_eq_iff_optionsAgree files hb hw options
      (history ++ [(b, .lint target)])
    rwa [after_concat, after_concat, optionsAgree_concat_iff hb Call.noConfusion] at hiff
  refine ⟨hout.corresponds, hends.eq_error_iff, hrules, fun hagree => ?_⟩
  cases hanswer : out.1 with
  | error err => exact ((hends.eq_error_iff err).1 hanswer).symm
  | ok answer =>
    cases hanswer' : out'.1 with
    | error err =>
      rw [(hends.eq_error_iff err).2 hanswer'] at hanswer
      cases hanswer
    | ok answer' =>
      -- Both results are those of the same rules and the same parsers.
      have hparsers : (out.2.state b).engine.parsers = (out'.2.state b).engine.parsers :=
        congrArg (·.parsers) (hout.engine_of_ne hb).symm
      rw [eq_results_of_call_lint hanswer, eq_results_of_call_lint hanswer',
        Target.results_congr hparsers (hrules.2 hagree)]

/-- When the first engine says of the rule that it is on, which is the default, nothing changes. -/
theorem results_agree_todoPair :
    false ≠ true ∧ todoPair.registry.Consistent ∧
      OptionsAgree ⟨[], []⟩ todoPair [(true, .setUp)] true false [("no-todo", .enabled true)] ∧
      ((todoPair.after ⟨[], []⟩ [(true, .setUp)]).call ⟨[], []⟩ false
          (.lint (.text "TODO: x" "txt"))).1 =
        (((todoPair.withOptions true [("no-todo", .enabled true)]).after ⟨[], []⟩
          [(true, .setUp)]).call ⟨[], []⟩ false (.lint (.text "TODO: x" "txt"))).1 := by
  have hagree : OptionsAgree ⟨[], []⟩ todoPair [(true, .setUp)] true false
      [("no-todo", .enabled true)] := by
    intro x _ _ _
    have hdefault : ([("no-todo", RuleOption.enabled true)].lookup x.name).getD .default =
        .default := by
      rw [List.lookup_cons]
      split <;> rfl
    rw [hdefault]
    rfl
  have hresults := @results_agree Bool _ ⟨[], []⟩ todoPair true false Bool.false_ne_true
    Registry.consistent_empty [("no-todo", .enabled true)] [(true, .setUp)]
    (.text "TODO: x" "txt")
  exact ⟨Bool.false_ne_true, Registry.consistent_empty, hagree, hresults.2.2.2 hagree⟩

/-- When the first engine switches the rule off, the second one, which names the rule as well and
says nothing more about it, does not run it. -/
theorem options_change_results :
    ((todoPair.after ⟨[], []⟩ [(true, .setUp)]).call ⟨[], []⟩ false
        (.lint (.text "TODO: x" "txt"))).1 ≠
      (((todoPair.withOptions true [("no-todo", .enabled false)]).after ⟨[], []⟩
        [(true, .setUp)]).call ⟨[], []⟩ false (.lint (.text "TODO: x" "txt"))).1 := by
  have hpair : todoPair.withOptions true [] = todoPair := by
    rw [withOptions, show (todoPair.engines true).withOptions [] = todoPair.engines true from rfl,
      Function.update_eq_self]
  have hon : (Executor.executeOnText todoEngine.parsers
      [⟨"no-todo", NoTodo.rule, .null, none⟩] "TODO: x" "txt").map (·.messages.length) = [1] := by
    decide +kernel
  have hoff : (Executor.executeOnText todoEngine.parsers [] "TODO: x" "txt").map
      (·.messages.length) = [0] := by
    decide +kernel
  -- Without options the engines are the pair itself.
  have hdefault := call_todoPair_lint [] (.text "TODO: x" "txt")
  rw [hpair] at hdefault
  rw [hdefault, call_todoPair_lint]
  intro heq
  have hresults : Executor.executeOnText todoEngine.parsers
      [⟨"no-todo", NoTodo.rule, .null, none⟩] "TODO: x" "txt" =
        Executor.executeOnText todoEngine.parsers [] "TODO: x" "txt" := by
    have hinner := Answer.results.inj (Except.ok.inj heq)
    simp only [Target.results, activeRules_todoPair] at hinner
    exact hinner
  rw [hresults, hoff] at hon
  exact absurd hon (by decide)

end ProseLinter.Fleet
