import Mathlib.Data.List.Induction
import Mathlib.Logic.Function.Basic
import ProseLinter.Proofs.Engine.Call
import ProseLinter.Proofs.Registry.Source

/-!
# Engines that share a registry

An engine remembers that it is set up, but the rules that it loaded are in a registry that it shares
with other engines. A reset empties the registry for all of them and only tells the engine that made
it. What an engine asked for is therefore still there when it lints, unless another engine reset the
registry after the engine was set up, and no call has registered the rule again: `Lost`.

* `requests_after` : what an engine has asked for after a history of calls of all engines.
* `provides_or_lost` : a rule that an engine which is set up asked for is provided, or was lost.
* `lints_with_requests_iff` : an engine lints with exactly those rules it asked for that were not
  lost.
* `lints_without_rule` : a rule can be lost, and then the engine lints without it.
-/

namespace ProseLinter

open Engine

/-- Engines, and the registry that they share. -/
structure Fleet (ι : Type) where
  engines : ι → Engine
  registry : Registry

namespace Fleet

variable {ι : Type} [DecidableEq ι] (files : FileTree)

/-- An engine and the shared registry. -/
def state (w : Fleet ι) (i : ι) : State :=
  ⟨w.engines i, w.registry⟩

/-- The answer to a call of one engine, and all engines after it. -/
def call (w : Fleet ι) (i : ι) (c : Call) : Except LintError Answer × Fleet ι :=
  let out := exec (c.step files) (w.state i)
  (out.1, ⟨Function.update w.engines i out.2.engine, out.2.registry⟩)

/-- The engines after calls, made one after the other. -/
def after (w : Fleet ι) (history : List (ι × Call)) : Fleet ι :=
  history.foldl (fun w p => (w.call files p.1 p.2).2) w

/-- The rules that a history adds to an engine for good. -/
def added (i : ι) : Fleet ι → List (ι × Call) → List Specifier
  | _, [] => []
  | w, (j, c) :: history =>
    let out := w.call files j c
    (if j = i then c.accepted out.1 else []) ++ added i out.2 history

/-- In a history an entry was lost to an engine: another engine reset the registry while the engine
was set up, the engine was not reset since, and no call since has registered the entry again. -/
def Lost (w : Fleet ι) (history : List (ι × Call)) (i : ι) (x : RuleEntry) : Prop :=
  ∃ before j later, history = before ++ (j, .reset) :: later ∧ j ≠ i ∧
    ((w.after files before).engines i).isSetUp = true ∧ (i, Call.reset) ∉ later ∧
    ∀ seen, seen <+: later →
      ¬ (w.after files (before ++ (j, .reset) :: seen)).registry.Provides x

variable {files} {w : Fleet ι}

/-! ### One call -/

/-- A call does not change the other engines. -/
theorem engines_call_of_ne {i j : ι} (h : i ≠ j) (c : Call) :
    (w.call files j c).2.engines i = w.engines i :=
  Function.update_of_ne h _ _

/-- The engine of a call and the registry are left as the call leaves them. -/
theorem state_call_self (i : ι) (c : Call) :
    (w.call files i c).2.state i = (exec (c.step files) (w.state i)).2 := by
  simp only [state, call, Function.update_self]

/-- A call of an engine that is no reset grows the registry. -/
theorem grows_call {i : ι} {c : Call} (hc : c ≠ .reset) :
    Grows files (w.state i) ((w.call files i c).2.state i)
      (c.accepted (w.call files i c).1) := by
  rw [state_call_self]
  exact Engine.grows_call _ hc

/-- After a reset the registry provides nothing. -/
theorem not_provides_reset (j : ι) (x : RuleEntry) :
    ¬ (w.call files j .reset).2.registry.Provides x := by
  rintro ⟨e, he, -⟩
  have hnone : (w.call files j .reset).2.registry.get? x.name = none := Registry.get?_empty _
  rw [hnone] at he
  cases he

/-- A call keeps the order and the entries of the registry together. -/
theorem consistent_call (h : w.registry.Consistent) (j : ι) (c : Call) :
    (w.call files j c).2.registry.Consistent := by
  by_cases hc : c = .reset
  · rw [hc]
    exact Registry.consistent_empty
  · exact (grows_call hc).registry_extends.consistent h

/-- An engine that is set up stays so until it makes a reset itself. -/
theorem isSetUp_call {i j : ι} {c : Call} (h : (w.engines i).isSetUp = true)
    (hc : (i, Call.reset) ≠ (j, c)) : ((w.call files j c).2.engines i).isSetUp = true := by
  by_cases hij : i = j
  · subst hij
    exact (grows_call fun hreset => hc (by rw [hreset])).isSetUp h
  · rw [engines_call_of_ne hij]
    exact h

/-- A call changes of an engine at most the added rules and whether it is set up. -/
theorem exists_engines_call_eq (files : FileTree) (w : Fleet ι) (i j : ι) (c : Call) :
    ∃ isSetUp, (w.call files j c).2.engines i =
      { w.engines i with
        added := (w.engines i).added ++ if j = i then c.accepted (w.call files j c).1 else []
        isSetUp } := by
  by_cases hji : j = i
  · subst hji
    rw [if_pos rfl]
    by_cases hc : c = .reset
    · -- A reset adds no rule for good, and leaves those that were added.
      subst hc
      refine ⟨false, ?_⟩
      change ((w.call files j .reset).2.state j).engine = _
      rw [state_call_self, exec_reset, Call.accepted_reset, List.append_nil]
      rfl
    · exact ⟨_, (grows_call hc).engine_eq⟩
  · rw [if_neg hji, List.append_nil, engines_call_of_ne (Ne.symm hji)]
    exact ⟨_, rfl⟩

/-! ### Histories -/

theorem after_append (w : Fleet ι) (first second : List (ι × Call)) :
    w.after files (first ++ second) = (w.after files first).after files second :=
  List.foldl_append

theorem after_concat (w : Fleet ι) (history : List (ι × Call)) (j : ι) (c : Call) :
    w.after files (history ++ [(j, c)]) = ((w.after files history).call files j c).2 := by
  rw [after_append]
  rfl

/-- A history keeps the order and the entries of the registry together. -/
theorem consistent_after (h : w.registry.Consistent) (history : List (ι × Call)) :
    (w.after files history).registry.Consistent := by
  induction history generalizing w with
  | nil => exact h
  | cons p history ih => exact ih (consistent_call h p.1 p.2)

/-- An engine that is set up stays so in a history in which it makes no reset itself. -/
theorem isSetUp_after {i : ι} {history : List (ι × Call)} (h : (w.engines i).isSetUp = true)
    (hreset : (i, Call.reset) ∉ history) :
    ((w.after files history).engines i).isSetUp = true := by
  induction history generalizing w with
  | nil => exact h
  | cons p history ih =>
    rw [List.mem_cons, not_or] at hreset
    exact ih (isSetUp_call h hreset.1) hreset.2

/-- A history changes of an engine at most the added rules and whether it is set up. -/
theorem exists_engines_after_eq (files : FileTree) (w : Fleet ι) (i : ι)
    (history : List (ι × Call)) :
    ∃ isSetUp, (w.after files history).engines i =
      { w.engines i with
        added := (w.engines i).added ++ added files i w history
        isSetUp } := by
  induction history generalizing w with
  | nil => exact ⟨_, by rw [added, List.append_nil]; rfl⟩
  | cons p history ih =>
    obtain ⟨b, hcall⟩ := exists_engines_call_eq files w i p.1 p.2
    obtain ⟨b', hafter⟩ := ih (w.call files p.1 p.2).2
    refine ⟨b', ?_⟩
    change ((w.call files p.1 p.2).2.after files history).engines i = _
    rw [hafter, hcall, added, List.append_assoc]

/-- A history without a reset extends the registry. -/
theorem extends_after {history : List (ι × Call)} (h : ∀ j, (j, Call.reset) ∉ history) :
    w.registry.Extends (w.after files history).registry := by
  induction history generalizing w with
  | nil => exact .refl _
  | cons p history ih =>
    obtain ⟨i, c⟩ := p
    have hc : c ≠ .reset := by
      rintro rfl
      exact h i List.mem_cons_self
    have hcall : w.registry.Extends (w.call files i c).2.registry :=
      (grows_call hc).registry_extends
    exact hcall.trans (ih fun j hj => h j (List.mem_cons_of_mem _ hj))

/-- A history does not change the configuration of an engine. -/
theorem config_after (i : ι) (history : List (ι × Call)) :
    ((w.after files history).engines i).config = (w.engines i).config := by
  obtain ⟨isSetUp, hengine⟩ := exists_engines_after_eq files w i history
  rw [hengine]

/-- After a history an engine asks for what it asked for before and for the rules that were added
to it for good. -/
theorem requests_after (i : ι) (history : List (ι × Call)) :
    ((w.after files history).engines i).requests files =
      (w.engines i).requests files ++
        (added files i w history).map ((w.engines i).ruleRequest files) := by
  obtain ⟨b, hafter⟩ := exists_engines_after_eq files w i history
  rw [hafter, List.map_eq_flatMap, requests, requests, List.append_assoc, ← List.flatMap_append]
  rfl

/-! ### Lost rules -/

/-- An engine that lost a rule is still set up. -/
theorem Lost.isSetUp {history : List (ι × Call)} {i : ι} {x : RuleEntry}
    (h : Lost files w history i x) : ((w.after files history).engines i).isSetUp = true := by
  obtain ⟨before, j, later, rfl, hj, hbefore, hlater, -⟩ := h
  rw [after_append]
  refine isSetUp_after hbefore ?_
  rw [List.mem_cons, not_or]
  exact ⟨fun heq => hj (Prod.ext_iff.1 heq).1.symm, hlater⟩

/-- A rule that was lost is not provided. -/
theorem Lost.not_provides {history : List (ι × Call)} {i : ι} {x : RuleEntry}
    (h : Lost files w history i x) : ¬ (w.after files history).registry.Provides x := by
  obtain ⟨before, j, later, rfl, -, -, -, hseen⟩ := h
  exact hseen later (List.prefix_refl _)

/-- The reset of another engine loses all rules of an engine that is set up. -/
theorem lost_reset (history : List (ι × Call)) {i j : ι} (hij : i ≠ j)
    (h : ((w.after files history).engines i).isSetUp = true) (x : RuleEntry) :
    Lost files w (history ++ [(j, .reset)]) i x := by
  refine ⟨history, j, [], rfl, hij.symm, h, List.not_mem_nil, fun seen hseen => ?_⟩
  rw [List.prefix_nil.1 hseen, after_concat]
  exact not_provides_reset j x

/-- A rule stays lost by a call that does not register it and does not reset its engine. -/
theorem Lost.concat {history : List (ι × Call)} {i j : ι} {c : Call} {x : RuleEntry}
    (h : Lost files w history i x) (hc : (i, Call.reset) ≠ (j, c))
    (hx : ¬ (w.after files (history ++ [(j, c)])).registry.Provides x) :
    Lost files w (history ++ [(j, c)]) i x := by
  obtain ⟨before, k, later, rfl, hk, hbefore, hlater, hseen⟩ := h
  -- The reset that lost the rule is the same one, followed by one more call.
  refine ⟨before, k, later ++ [(j, c)], by simp, hk, hbefore, ?_, fun seen hprefix => ?_⟩
  · rw [List.mem_append, List.mem_singleton, not_or]
    exact ⟨hlater, hc⟩
  · rcases List.prefix_concat_iff.1 hprefix with rfl | hprefix
    · simpa using hx
    · exact hseen seen hprefix

/-- What was provided or lost before a call that is no reset is so after it. -/
theorem provides_or_lost_concat {history : List (ι × Call)} {i j : ι} {c : Call} {x : RuleEntry}
    (hc : c ≠ .reset) (hx : (w.after files history).registry.Provides x ∨ Lost files w history i x) :
    (w.after files (history ++ [(j, c)])).registry.Provides x ∨
      Lost files w (history ++ [(j, c)]) i x := by
  by_cases hprovided : (w.after files (history ++ [(j, c)])).registry.Provides x
  · exact .inl hprovided
  · have hbefore : ¬ (w.after files history).registry.Provides x := by
      intro hx
      rw [after_concat] at hprovided
      exact hprovided (hx.mono (grows_call hc).registry_extends)
    refine .inr ((hx.resolve_left hbefore).concat ?_ hprovided)
    exact fun heq => hc (Prod.ext_iff.1 heq).2.symm

/-- Whatever an engine that is set up asked for is provided, or was lost to it. -/
theorem provides_or_lost {i : ι} (hw : (w.engines i).isSetUp = false)
    (history : List (ι × Call)) (h : ((w.after files history).engines i).isSetUp = true) :
    ∀ q ∈ ((w.after files history).engines i).requests files, ∃ x, q = .ok x ∧
      ((w.after files history).registry.Provides x ∨ Lost files w history i x) := by
  induction history using List.reverseRecOn with
  | nil =>
    have hnot : (w.engines i).isSetUp = true := h
    rw [hw] at hnot
    cases hnot
  | append_singleton history p ih =>
    obtain ⟨j, c⟩ := p
    by_cases hij : i = j
    · subst hij
      by_cases hc : c = .reset
      · -- An engine that made a reset is not set up.
        rw [hc, after_concat] at h
        change ((((w.after files history).call files i .reset).2.state i).engine).isSetUp = true at h
        rw [state_call_self] at h
        cases h
      · intro q hq
        have hgrows : Grows files ((w.after files history).state i)
            (((w.after files history).call files i c).2.state i) _ := grows_call hc
        rw [after_concat] at h hq
        rcases hgrows.provides h q hq with ⟨hset, hold⟩ | ⟨x, hx, hprovided⟩
        · obtain ⟨x, hx, hbefore⟩ := ih hset q hold
          exact ⟨x, hx, provides_or_lost_concat hc hbefore⟩
        · refine ⟨x, hx, .inl ?_⟩
          rw [after_concat]
          exact hprovided
    · -- The call of another engine changes the registry only.
      intro q hq
      rw [after_concat, engines_call_of_ne hij] at h hq
      obtain ⟨x, hx, hbefore⟩ := ih h q hq
      refine ⟨x, hx, ?_⟩
      by_cases hc : c = .reset
      · subst hc
        exact .inr (lost_reset history hij h x)
      · exact provides_or_lost_concat hc hbefore

/-! ### Linting -/

/-- An engine that lints is set up first, and lints with the registry that this leaves. -/
theorem exec_setUp_of_call_lint {w' : Fleet ι} {i : ι} {target : Target} {rs : List FileResult}
    (h : w.call files i (.lint target) = (.ok (.results rs), w')) :
    exec (setUp files) (w.state i) = (.ok (), w'.state i) ∧
      rs = target.results files (w'.state i) := by
  have hstate : w'.state i = (exec ((Call.lint target).step files) (w.state i)).2 := by
    rw [← state_call_self, h]
  have hanswer : (exec ((Call.lint target).step files) (w.state i)).1 = .ok (.results rs) :=
    congrArg Prod.fst h
  rw [Call.step, exec_map, exec_lint] at hstate hanswer
  rcases hsetUp : exec (setUp files) (w.state i) with ⟨err | ⟨⟩, s⟩
  · rw [hsetUp] at hanswer
    cases hanswer
  · rw [hsetUp] at hstate hanswer
    rw [hstate]
    cases hanswer
    exact ⟨rfl, rfl⟩

/-- An engine that is set up lints with the registry as it is. -/
theorem call_lint_of_isSetUp (files : FileTree) {i : ι} (h : (w.engines i).isSetUp = true)
    (target : Target) :
    w.call files i (.lint target) = (.ok (.results (target.results files (w.state i))), w) := by
  have hsetUp : exec (setUp files) (w.state i) = (.ok (), w.state i) := exec_setUp_of_isSetUp h
  rw [call, Call.step, exec_map, exec_lint, hsetUp]
  simp only [Except.map, state, Function.update_eq_self]

/-- The answer of an engine that lints. -/
theorem eq_results_of_call_lint {i : ι} {target : Target} {answer : Answer}
    (h : (w.call files i (.lint target)).1 = .ok answer) :
    answer = .results (target.results files ((w.call files i (.lint target)).2.state i)) := by
  rw [state_call_self]
  change (exec ((Call.lint target).step files) (w.state i)).1 = _ at h
  rw [Call.step, exec_map, exec_lint] at h ⊢
  rcases hsetUp : exec (setUp files) (w.state i) with ⟨err | ⟨⟩, s⟩
  · rw [hsetUp] at h
    cases h
  · rw [hsetUp] at h
    cases h
    rfl

/-- Linting fails as setting the engine up does, or gives the results of what this leaves. -/
theorem call_lint_fst (i : ι) (target : Target) :
    (w.call files i (.lint target)).1 = (w.call files i .setUp).1.map fun _ =>
      .results (target.results files ((w.call files i .setUp).2.state i)) := by
  rw [state_call_self]
  simp only [call, Call.step, exec_map, exec_lint]
  cases (exec (setUp files) (w.state i)).1 <;> rfl

/-- Setting up an engine that was not set up provides all that it asks for. -/
theorem provides_of_exec_setUp {s s' : State} (h : exec (setUp files) s = (.ok (), s'))
    (hs : s.engine.isSetUp = false) :
    ∀ q ∈ s.engine.requests files, ∃ x, q = .ok x ∧ s'.registry.Provides x := by
  obtain ⟨hgrows, hset⟩ := grows_setUp files s
  rw [h] at hgrows hset
  have hrequests : s'.engine.requests files = s.engine.requests files := by
    rw [hgrows.engine_eq, List.append_nil]
    rfl
  intro q hq
  rw [← hrequests] at hq
  rcases hgrows.provides (hset () rfl) q hq with ⟨htrue, -⟩ | hprovided
  · rw [hs] at htrue
    cases htrue
  · exact hprovided

/-! ### Two engines with one rule -/

/-- Two engines of a configuration with one rule over one registry without rules. -/
def todoPair : Fleet Bool :=
  ⟨fun _ => todoEngine, .empty⟩

/-- Setting up the first engine registers the rule. -/
theorem state_todoPair_setUp :
    (todoPair.after ⟨[], []⟩ [(true, .setUp)]).state true =
      ⟨{ todoEngine with isSetUp := true }, Registry.empty.append todoEntry⟩ := by
  change (todoPair.call ⟨[], []⟩ true .setUp).2.state true = _
  rw [state_call_self, Call.step, exec_map]
  exact congrArg Prod.snd exec_setUp_todoEngine

/-! ### What an engine lints with -/

/-- When an engine lints after a history of calls of all engines, the rules that it asked for were
all found, and the registry with which it lints lists exactly those that were not lost. A rule that
is listed is the very rule or one of the same source, except for an object handed in whose name
holds another one. -/
theorem lints_with_requests_iff {w' : Fleet ι} {i : ι} {history : List (ι × Call)}
    {target : Target} {rs : List FileResult} (hi : (w.engines i).isSetUp = false)
    (hr : w.registry.Consistent)
    (h : (w.after files history).call files i (.lint target) = (.ok (.results rs), w')) :
    rs = target.results files (w'.state i) ∧
      ∀ q ∈ (w.engines i).requests files ++
          (added files i w history).map ((w.engines i).ruleRequest files),
        ∃ x, q = .ok x ∧ (w'.registry.Lists x ↔ ¬ Lost files w history i x) ∧
          (w'.registry.Lists x → (w'.registry.Honours x ↔ ¬ w'.registry.HoldsOtherObject x)) := by
  obtain ⟨hsetUp, hresults⟩ := exec_setUp_of_call_lint h
  have hconsistent : w'.registry.Consistent := by
    have hcall : ((w.after files history).call files i (.lint target)).2.registry.Consistent :=
      consistent_call (consistent_after hr history) i (.lint target)
    rwa [h] at hcall
  have hhonours (x : RuleEntry) (hx : w'.registry.Lists x) :
      w'.registry.Honours x ↔ ¬ w'.registry.HoldsOtherObject x :=
    ((hconsistent.lists_iff x).1 hx).honours_iff
  refine ⟨hresults, fun q hq => ?_⟩
  rw [← requests_after] at hq
  cases hset : ((w.after files history).engines i).isSetUp with
  | true =>
    -- Nothing is loaded, so the registry is the one that the history left.
    rw [exec_setUp_of_isSetUp hset] at hsetUp
    have hregistry : (w.after files history).registry = w'.registry :=
      congrArg (fun out => out.2.registry) hsetUp
    obtain ⟨x, hx, hor⟩ := provides_or_lost hi history hset q hq
    refine ⟨x, hx, ?_, hhonours x⟩
    rw [hconsistent.lists_iff, ← hregistry]
    exact ⟨fun hprovided hlost => hlost.not_provides hprovided, hor.resolve_right⟩
  | false =>
    -- All requests are served again, and an engine that lost a rule would be set up.
    obtain ⟨x, hx, hprovided⟩ := provides_of_exec_setUp hsetUp hset q hq
    refine ⟨x, hx, ?_, hhonours x⟩
    rw [hconsistent.lists_iff]
    refine ⟨fun _ hlost => ?_, fun _ => hprovided⟩
    rw [hlost.isSetUp] at hset
    cases hset

/-- The first of two engines lints with its rule after it was set up. -/
theorem lints_with_rule :
    (todoPair.engines true).isSetUp = false ∧ todoPair.registry.Consistent ∧
      ∃ rs w', (todoPair.after ⟨[], []⟩ [(true, .setUp)]).call ⟨[], []⟩ true
          (.lint (.text "TODO: x" "txt")) = (.ok (.results rs), w') ∧
        w'.registry.Lists todoEntry := by
  have hset : ((todoPair.after ⟨[], []⟩ [(true, .setUp)]).engines true).isSetUp = true :=
    congrArg (fun s => s.engine.isSetUp) state_todoPair_setUp
  have hcall := call_lint_of_isSetUp ⟨[], []⟩ hset (.text "TODO: x" "txt")
  refine ⟨rfl, Registry.consistent_empty, _, _, hcall, ?_⟩
  have hrequest : Except.ok todoEntry ∈ (todoPair.engines true).requests ⟨[], []⟩ ++
      (added ⟨[], []⟩ true todoPair [(true, .setUp)]).map
        ((todoPair.engines true).ruleRequest ⟨[], []⟩) := by
    refine List.mem_append_left _ ?_
    rw [show todoPair.engines true = todoEngine from rfl, requests_todoEngine]
    exact List.mem_singleton_self _
  obtain ⟨-, hlists⟩ := lints_with_requests_iff rfl Registry.consistent_empty hcall
  obtain ⟨x, hx, hiff, -⟩ := hlists _ hrequest
  cases hx
  refine hiff.2 ?_
  -- Nothing was lost, since the history has no reset.
  rintro ⟨before, j, later, heq, -⟩
  have hreset : (j, Call.reset) ∈ [(true, Call.setUp)] := by
    rw [heq]
    exact List.mem_append_right _ List.mem_cons_self
  simp at hreset

/-- After the other engine reset the registry, the first one lints without its rule and reports
success. -/
theorem lints_without_rule :
    Except.ok todoEntry ∈ (todoPair.engines true).requests ⟨[], []⟩ ∧
      ∃ rs w', (todoPair.after ⟨[], []⟩ [(true, .setUp), (false, .reset)]).call ⟨[], []⟩ true
          (.lint (.text "TODO: x" "txt")) = (.ok (.results rs), w') ∧
        ¬ w'.registry.Lists todoEntry := by
  have hset : ((todoPair.after ⟨[], []⟩ [(true, .setUp)]).engines true).isSetUp = true :=
    congrArg (fun s => s.engine.isSetUp) state_todoPair_setUp
  have hlost : Lost ⟨[], []⟩ todoPair [(true, .setUp), (false, .reset)] true todoEntry :=
    lost_reset [(true, .setUp)] (by decide) hset todoEntry
  constructor
  · rw [show todoPair.engines true = todoEngine from rfl, requests_todoEngine]
    exact List.mem_singleton_self _
  · refine ⟨_, _, call_lint_of_isSetUp _ hlost.isSetUp _, ?_⟩
    rw [(consistent_after Registry.consistent_empty _).lists_iff]
    exact hlost.not_provides

end Fleet

end ProseLinter
