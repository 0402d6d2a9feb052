import ProseLinter.Proofs.Engine.Options
import ProseLinter.Proofs.Engine.SharedRegistry

/-!
# Two runs that differ in the options of one engine

The same calls are made twice, by the same engines but for one, which has other options of rules the
second time. As long as the entries that it makes are related, the two runs end alike call by call
and go through registries with related entries.

* `SideBySide.call` and `SideBySide.after` : what one call and a history of calls keep.
-/

namespace ProseLinter.Fleet

open Engine

variable {ι : Type} [DecidableEq ι] {files : FileTree} {w w' : Fleet ι} {a : ι}
  {R : RuleEntry → RuleEntry → Prop} {options : List (String × RuleOption)}

/-- The engines, of which one has other options of rules. -/
def withOptions (w : Fleet ι) (a : ι) (options : List (String × RuleOption)) : Fleet ι :=
  { w with engines := Function.update w.engines a ((w.engines a).withOptions options) }

/-- The engines are the same but for the options of one of them, and the registries have related
entries. -/
structure SideBySide (R : RuleEntry → RuleEntry → Prop) (a : ι)
    (options : List (String × RuleOption)) (w w' : Fleet ι) : Prop where
  engine_self : w'.engines a = (w.engines a).withOptions options
  engine_of_ne {i : ι} (h : i ≠ a) : w'.engines i = w.engines i
  corresponds : w.registry.Corresponds R w'.registry

theorem sideBySide_withOptions (hR : RuleEntry.Congruence R) (w : Fleet ι) (a : ι)
    (options : List (String × RuleOption)) :
    SideBySide R a options w (w.withOptions a options) where
  engine_self := Function.update_self ..
  engine_of_ne h := Function.update_of_ne h ..
  corresponds := Registry.corresponds_refl hR _

/-- A call ends alike in both runs, which stay side by side. -/
theorem SideBySide.call (h : SideBySide R a options w w') (hR : RuleEntry.Congruence R)
    (ha : (w.engines a).Relates R options) (i : ι) (c : Call) :
    EndsAlike R (w.call files i c).1 (w'.call files i c).1 ∧
      SideBySide R a options (w.call files i c).2 (w'.call files i c).2 := by
  by_cases hi : i = a
  · -- The engine of the call is the one whose options differ.
    subst hi
    have hstate : w'.state i = ⟨(w.engines i).withOptions options, w'.registry⟩ := by
      rw [state, h.engine_self]
    have hout : Abreast R options (exec (c.step files) (w.state i))
        (exec (c.step files) (w'.state i)) := by
      rw [hstate]
      exact abreast_call hR ha h.corresponds c
    refine ⟨hout.ends, ?_, fun hj => ?_, hout.corresponds⟩
    · simp only [Fleet.call, Function.update_self]
      exact hout.engine_eq
    · rw [engines_call_of_ne hj, engines_call_of_ne hj, h.engine_of_ne hj]
  · -- The engine of the call is the same in both runs, and so is what the call makes of it.
    have hstate : w'.state i = ⟨w.engines i, w'.registry⟩ := by
      rw [state, h.engine_of_ne hi]
    obtain ⟨hends, hengine, hregistry⟩ := call_corresponds hR h.corresponds (w.engines i) c
    rw [← hstate] at hends hengine hregistry
    refine ⟨hends, ?_, fun {j} hj => ?_, hregistry⟩
    · rw [engines_call_of_ne (Ne.symm hi), engines_call_of_ne (Ne.symm hi), h.engine_self]
    · by_cases hji : j = i
      · subst hji
        simp only [Fleet.call, Function.update_self]
        exact hengine
      · rw [engines_call_of_ne hji, engines_call_of_ne hji, h.engine_of_ne hj]

/-- Runs that are side by side stay so. -/
theorem SideBySide.after (h : SideBySide R a options w w') (hR : RuleEntry.Congruence R)
    (ha : (w.engines a).Relates R options) (history : List (ι × Call)) :
    SideBySide R a options (w.after files history) (w'.after files history) := by
  induction history generalizing w w' with
  | nil => exact h
  | cons p history ih =>
    have hconfig : ((w.call files p.1 p.2).2.engines a).config = (w.engines a).config :=
      config_after a [p]
    exact ih (h.call hR ha p.1 p.2).2 (ha.of_config_eq hconfig)

end ProseLinter.Fleet
