import Mathlib.Data.List.Induction
import Mathlib.Logic.Function.Basic
import ProseLinter.Proofs.Engine.Alike

/-!
# Engines that are set up side by side

Engines of one configuration that share a registry may be set up at the same time. Their requests
then reach the registry one by one, in any order that a schedule gives; each engine makes its own
in order. Every engine makes an object of its own for a rule, but asks for the same names, origins
and options as the others. So the registry is at any time like the one that a single engine reaches
with as many requests as the engine that is ahead has made, and no request is refused.

* `run_alone` : an engine that is alone in a schedule does what setting it up does.
* `InStep.step` and `exists_inStep_run` : the registry stays like one that a single engine reaches.
* `interleaved_setups_agree` : what all schedules have in common with setting up a single engine.
-/

namespace ProseLinter

open Engine

/-- Setups that share a registry: what each engine still requests, and why it failed if it did. -/
structure Setups (ι : Type) where
  registry : Registry
  pending : ι → List Request
  failure : ι → Option LintError

namespace Setups

variable {ι : Type} [DecidableEq ι]

/-- The setups of engines that are not set up, on a registry without rules. -/
def start (files : FileTree) (engines : ι → Engine) : Setups ι :=
  ⟨.empty, fun i => (engines i).requests files, fun _ => none⟩

/-- An engine gives up. -/
def fail (w : Setups ι) (i : ι) (e : LintError) : Setups ι :=
  { w with
    pending := Function.update w.pending i []
    failure := Function.update w.failure i (some e) }

/-- An engine makes its next request. -/
def step (w : Setups ι) (i : ι) : Setups ι :=
  match w.pending i with
  | [] => w
  -- Nothing was found to register, which ends the setup as a refusal does.
  | .error e :: _ => w.fail i e
  | .ok x :: rest =>
    match w.registry.enter x with
    | .ok (_, registry) => { w with registry, pending := Function.update w.pending i rest }
    | .error e => w.fail i e

/-- The engines make requests in the order of a schedule. -/
def run (w : Setups ι) (schedule : List ι) : Setups ι :=
  schedule.foldl step w

/-- What setting up an engine gives. -/
def outcome (w : Setups ι) (i : ι) : Except LintError Unit :=
  match w.failure i with
  | none => .ok ()
  | some e => .error e

variable {w : Setups ι} {i : ι}

/-! ### A single step -/

theorem step_of_pending_nil (h : w.pending i = []) : w.step i = w := by
  rw [step, h]

theorem step_of_pending_error {e : LintError} {rest : List Request}
    (h : w.pending i = .error e :: rest) : w.step i = w.fail i e := by
  rw [step, h]

theorem step_of_enter_eq_ok {x : RuleEntry} {rest : List Request} {added : Bool} {r : Registry}
    (h : w.pending i = .ok x :: rest) (hx : w.registry.enter x = .ok (added, r)) :
    w.step i = { w with registry := r, pending := Function.update w.pending i rest } := by
  simp only [step, h, hx]

theorem step_of_enter_eq_error {x : RuleEntry} {rest : List Request} {e : LintError}
    (h : w.pending i = .ok x :: rest) (hx : w.registry.enter x = .error e) :
    w.step i = w.fail i e := by
  simp only [step, h, hx]

/-- A step extends the registry. -/
theorem extends_step (w : Setups ι) (i : ι) : w.registry.Extends (w.step i).registry := by
  cases hpending : w.pending i with
  | nil =>
    rw [step_of_pending_nil hpending]
    exact .refl _
  | cons q rest =>
    cases q with
    | error e =>
      rw [step_of_pending_error hpending]
      exact .refl _
    | ok x =>
      cases hx : w.registry.enter x with
      | error e =>
        rw [step_of_enter_eq_error hpending hx]
        exact .refl _
      | ok out =>
        rw [step_of_enter_eq_ok hpending hx]
        exact Registry.extends_enter hx

theorem run_append (w : Setups ι) (first second : List ι) :
    w.run (first ++ second) = (w.run first).run second :=
  List.foldl_append

/-- A schedule extends the registry. -/
theorem extends_run (w : Setups ι) (schedule : List ι) :
    w.registry.Extends (w.run schedule).registry := by
  induction schedule generalizing w with
  | nil => exact .refl _
  | cons i schedule ih => exact (extends_step w i).trans (ih (w.step i))

/-! ### One engine alone -/

/-- An engine that has nothing to request stays as it is. -/
theorem run_replicate_of_pending_nil (h : w.pending i = []) (n : Nat) :
    w.run (List.replicate n i) = w := by
  induction n with
  | zero => rfl
  | succ n ih => rw [List.replicate_succ, run, List.foldl_cons, step_of_pending_nil h, ← run, ih]

/-- An engine that is alone in a schedule has its requests served. -/
theorem run_replicate (h : w.failure i = none) :
    ((w.run (List.replicate (w.pending i).length i)).outcome i,
      (w.run (List.replicate (w.pending i).length i)).registry) =
        w.registry.serve (w.pending i) := by
  generalize hq : w.pending i = requests
  induction requests generalizing w with
  | nil =>
    change (w.outcome i, w.registry) = (.ok (), w.registry)
    rw [outcome, h]
  | cons q rest ih =>
    rw [List.length_cons, List.replicate_succ, run, List.foldl_cons, ← run]
    -- An engine that fails has nothing more to request.
    have hfail (e : LintError) :
        (((w.fail i e).run (List.replicate rest.length i)).outcome i,
          ((w.fail i e).run (List.replicate rest.length i)).registry) = (.error e, w.registry) := by
      rw [run_replicate_of_pending_nil (Function.update_self i [] w.pending)]
      simp only [outcome, fail, Function.update_self]
    cases q with
    | error e =>
      rw [step_of_pending_error hq]
      exact hfail e
    | ok x =>
      cases hx : w.registry.enter x with
      | error e =>
        rw [step_of_enter_eq_error hq hx, Registry.serve_cons_of_enter_eq_error hx]
        exact hfail e
      | ok out =>
        rw [step_of_enter_eq_ok hq hx, Registry.serve_cons_of_enter_eq_ok hx]
        exact ih h (Function.update_self i rest w.pending)

/-- An engine that is alone in a schedule does what setting it up does. -/
theorem run_alone {files : FileTree} {e : Engine} (he : e.isSetUp = false)
    (hpending : w.pending i = e.requests files) (hfailure : w.failure i = none) :
    ((exec (setUp files) ⟨e, w.registry⟩).1, (exec (setUp files) ⟨e, w.registry⟩).2.registry) =
      ((w.run (List.replicate (w.pending i).length i)).outcome i,
        (w.run (List.replicate (w.pending i).length i)).registry) := by
  rw [run_replicate hfailure, hpending]
  rcases hserve : w.registry.serve (e.requests files) with ⟨err | ⟨⟩, r⟩
  · rw [exec_setUp_of_serve_error he hserve]
  · rw [exec_setUp_of_serve_ok he hserve]

/-! ### In step with a single engine -/

/-- Each engine has made a number of requests and none was refused. The registry is like the one
that a single engine reaches with at least as many requests as any of them has made. -/
structure InStep (w : Setups ι) (requests : ι → List Request) (k : ι) (taken : ι → Nat) (n : Nat) :
    Prop where
  like : w.registry.Like (Registry.reached (requests k) n)
  pending_eq (i : ι) : w.pending i = (requests i).drop (taken i)
  taken_le (i : ι) : taken i ≤ n
  failure_eq (i : ι) : w.failure i = none

section InStep

variable {requests : ι → List Request} {k : ι} {solo : Registry} {taken : ι → Nat} {n : Nat}

omit [DecidableEq ι] in
/-- When an engine has nothing left to request, all requests were reached. -/
theorem InStep.length_le (h : w.InStep requests k taken n)
    (houtline : (requests i).map requestOutline = (requests k).map requestOutline)
    (hi : w.pending i = []) : (requests k).length ≤ n := by
  have hdone : (requests i).length ≤ taken i := by
    rw [← List.drop_eq_nil_iff, ← h.pending_eq, hi]
  have hsame := congrArg List.length houtline
  rw [List.length_map, List.length_map] at hsame
  exact hsame ▸ Nat.le_trans hdone (h.taken_le i)

/-- When an engine has made one more request, the rest of its requests is left. -/
theorem InStep.update_pending (h : w.InStep requests k taken n) {rest : List Request}
    (hrest : rest = (w.pending i).tail) (j : ι) :
    Function.update w.pending i rest j =
      (requests j).drop (Function.update taken i (taken i + 1) j) := by
  by_cases hji : j = i
  · rw [hji, Function.update_self, Function.update_self, hrest, h.pending_eq, List.tail_drop]
  · rw [Function.update_of_ne hji, Function.update_of_ne hji, h.pending_eq]

/-- When an engine has made one more request, no engine is ahead of what was reached then. -/
theorem InStep.update_taken_le (h : w.InStep requests k taken n) (i j : ι) :
    Function.update taken i (taken i + 1) j ≤ max n (taken i + 1) := by
  by_cases hji : j = i
  · rw [hji, Function.update_self]
    exact Nat.le_max_right _ _
  · rw [Function.update_of_ne hji]
    exact Nat.le_trans (h.taken_le j) (Nat.le_max_left _ _)

/-- A step keeps the setups in step with a single engine. -/
theorem InStep.step (h : w.InStep requests k taken n)
    (hsolo : Registry.empty.serve (requests k) = (.ok (), solo))
    (houtline : ∀ i, (requests i).map requestOutline = (requests k).map requestOutline)
    (hagree : Registry.OriginsAgree (requests k)) (i : ι) :
    (w.step i).InStep requests k (Function.update taken i (taken i + 1))
      (max n (taken i + 1)) := by
  cases hq : w.pending i with
  | nil =>
    -- The engine is done, and so is the single engine that it is compared with.
    have hlength := h.length_le (houtline i) hq
    rw [step_of_pending_nil hq]
    refine ⟨?_, fun j => ?_, h.update_taken_le i, h.failure_eq⟩
    · rw [Registry.reached_of_length_le hsolo (Nat.le_trans hlength (Nat.le_max_left _ _)),
        ← Registry.reached_of_length_le hsolo hlength]
      exact h.like
    · have htail : [] = (w.pending i).tail := by rw [hq, List.tail_nil]
      rw [← h.update_pending htail j, ← hq, Function.update_eq_self]
  | cons q rest =>
    -- The request is one that the single engine has made already, or the next one for both.
    have hat : (requests i)[taken i]? = some q := by
      have hhead := List.head?_drop (l := requests i) (i := taken i)
      rw [← h.pending_eq, hq] at hhead
      exact hhead.symm
    obtain ⟨x, y, hx, rfl, hxy⟩ := exists_request_of_map_outline_eq hsolo (houtline i) hat
    obtain ⟨added, r, henter, hlike⟩ := h.like.enter hsolo hagree (h.taken_le i) hx hxy
    rw [step_of_enter_eq_ok hq henter]
    exact ⟨hlike, h.update_pending (by rw [hq, List.tail_cons]), h.update_taken_le i, h.failure_eq⟩

/-- Every schedule keeps the setups in step with a single engine. -/
theorem exists_inStep_run {files : FileTree} {engines : ι → Engine}
    (hsolo : Registry.empty.serve ((engines k).requests files) = (.ok (), solo))
    (houtline : ∀ i, ((engines i).requests files).map requestOutline =
      ((engines k).requests files).map requestOutline)
    (hagree : Registry.OriginsAgree ((engines k).requests files)) (schedule : List ι) :
    ∃ n, ((start files engines).run schedule).InStep (fun i => (engines i).requests files) k
      (fun i => schedule.count i) n := by
  induction schedule using List.reverseRecOn with
  | nil => exact ⟨0, .refl _, fun _ => rfl, fun _ => Nat.le_refl 0, fun _ => rfl⟩
  | append_singleton schedule i ih =>
    obtain ⟨n, h⟩ := ih
    -- One more turn of an engine is one more request that it has made.
    have hcount : (fun j => (schedule ++ [i]).count j) =
        Function.update (fun j => schedule.count j) i (schedule.count i + 1) := by
      funext j
      by_cases hji : j = i
      · rw [hji, Function.update_self, List.count_append, List.count_singleton_self]
      · rw [Function.update_of_ne hji, List.count_append,
          List.count_singleton.trans (if_neg (by simpa using Ne.symm hji)), Nat.add_zero]
    rw [hcount, run_append]
    exact ⟨_, h.step hsolo houtline hagree i⟩

omit [DecidableEq ι] in
/-- What a schedule that is in step with a single engine has left in the registry. -/
theorem InStep.registry_prefix (h : w.InStep requests k taken n)
    (hsolo : Registry.empty.serve (requests k) = (.ok (), solo)) :
    w.registry.names <+: solo.names ∧
      w.registry.entries.map (·.outline) <+: solo.entries.map (·.outline) := by
  have hextends : (Registry.reached (requests k) n).Extends solo := by
    rw [← Registry.reached_of_length_le hsolo (Nat.le_max_right n (requests k).length)]
    exact Registry.extends_reached hsolo (Nat.le_max_left _ _)
  -- The registry lists what the single engine had reached, which the rest of its run extends.
  rw [h.like.names_eq, h.like.map_outline_entries]
  exact ⟨hextends.names_prefix,
    (hextends.entries_prefix (Registry.consistent_reached _ n)).map _⟩

omit [DecidableEq ι] in
/-- Once an engine is done the registry is like that of a single engine. -/
theorem InStep.like_of_pending_nil (h : w.InStep requests k taken n)
    (hsolo : Registry.empty.serve (requests k) = (.ok (), solo))
    (houtline : (requests i).map requestOutline = (requests k).map requestOutline)
    (hi : w.pending i = []) : w.registry.Like solo := by
  rw [← Registry.reached_of_length_le hsolo (h.length_le houtline hi)]
  exact h.like

end InStep

/-! ### All schedules -/

/-- Let engines of one configuration share a registry without rules, and suppose that one of them
alone could be set up. However their requests are interleaved, none fails; at any time the registry
lists the first names that the single engine would have registered, with their origins and options;
what was listed earlier comes first in what is listed later; and once an engine is done, the
registry lists what the single engine would have registered. -/
theorem interleaved_setups_agree {files : FileTree} {config : Config} {catalog : ι → Catalog}
    {home pluginHome : Option Path} {engines : ι → Engine} {k : ι} {solo : State}
    (hengines : ∀ i, Engine.ofConfig files config ⟨catalog i, home⟩ pluginHome = .ok (engines i))
    (hcatalog : ∀ i j package, (catalog i).contains package = (catalog j).contains package)
    (hsolo : exec (setUp files) ⟨engines k, .empty⟩ = (.ok (), solo)) (schedule : List ι) :
    let w := (start files engines).run schedule
    (∀ i, w.failure i = none ∧
      w.pending i = ((engines i).requests files).drop (schedule.count i)) ∧
    w.registry.names <+: solo.registry.names ∧
    w.registry.entries.map (·.outline) <+: solo.registry.entries.map (·.outline) ∧
    (∀ earlier, earlier <+: schedule →
      ((start files engines).run earlier).registry.entries <+: w.registry.entries) ∧
    ∀ i, w.pending i = [] → w.registry.names = solo.registry.names ∧
      w.registry.entries.map (·.outline) = solo.registry.entries.map (·.outline) := by
  intro w
  have halike (i : ι) : (engines i).Alike (engines k) :=
    alike_of_ofConfig (hengines i) (hengines k) (hcatalog i k)
  have houtline (i : ι) : ((engines i).requests files).map requestOutline =
      ((engines k).requests files).map requestOutline :=
    map_outline_requests_congr (halike i)
  have hfresh := eq_of_ofConfig (hengines k)
  have hagree : Registry.OriginsAgree ((engines k).requests files) :=
    originsAgree_requests (by rw [hfresh])
  -- The single engine can only be set up if all its requests are served.
  have hserve : Registry.empty.serve ((engines k).requests files) = (.ok (), solo.registry) := by
    rcases hr : Registry.empty.serve ((engines k).requests files) with ⟨err | ⟨⟩, r⟩
    · rw [exec_setUp_of_serve_error (by rw [hfresh]) hr] at hsolo
      cases hsolo
    · rw [exec_setUp_of_serve_ok (by rw [hfresh]) hr] at hsolo
      cases hsolo
      rfl
  obtain ⟨n, h⟩ := exists_inStep_run hserve houtline hagree schedule
  obtain ⟨hnames, hentries⟩ := h.registry_prefix hserve
  refine ⟨fun i => ⟨h.failure_eq i, h.pending_eq i⟩, hnames, hentries, ?_, fun i hi => ?_⟩
  · rintro earlier ⟨later, rfl⟩
    obtain ⟨m, hearlier⟩ := exists_inStep_run hserve houtline hagree earlier
    have hextends := extends_run ((start files engines).run earlier) later
    rw [← run_append] at hextends
    exact hextends.entries_prefix ((extends_run _ earlier).consistent Registry.consistent_empty)
  · have hlike := h.like_of_pending_nil hserve (houtline i) hi
    exact ⟨hlike.names_eq, hlike.map_outline_entries⟩

/-- Two engines with one rule, set up in turn. -/
theorem todoEngines_agree :
    (∀ _ : Bool, Engine.ofConfig ⟨[], []⟩ { rules := ["no-todo"] } ⟨.bundled, none⟩ none =
        .ok todoEngine) ∧
      exec (setUp ⟨[], []⟩) ⟨todoEngine, .empty⟩ =
        (.ok (), ⟨{ todoEngine with isSetUp := true }, Registry.empty.append todoEntry⟩) ∧
      ((start ⟨[], []⟩ fun _ : Bool => todoEngine).run [true, false]).registry.names =
        ["no-todo"] := by
  have hengines (_ : Bool) : Engine.ofConfig ⟨[], []⟩ { rules := ["no-todo"] } ⟨.bundled, none⟩
      none = .ok todoEngine := rfl
  have hagree := interleaved_setups_agree hengines (fun _ _ _ => rfl) (k := true)
    exec_setUp_todoEngine [true, false]
  refine ⟨hengines, exec_setUp_todoEngine, ?_⟩
  obtain ⟨hall, -, -, -, hdone⟩ := hagree
  refine (hdone true ?_).1
  rw [(hall true).2, requests_todoEngine]
  rfl

end Setups

end ProseLinter
