import ProseLinter.Proofs.Registry.Requests

/-!
# Which rule a name stands for

A registration that is accepted may leave the name with an earlier rule. That rule is the same
object, or comes from the same source, with one exception: two objects that callers handed in count
as rules of one origin although they have no source in common.

* `Provides.honours_iff` : an accepted entry is honoured unless its name holds another object.
* `enter_honours_iff` : the exception depends on what the name was bound to before.
* `Origin.same_eq_true_iff` : what equality of origins means beyond having the same source.
-/

namespace ProseLinter

/-- Whether two origins are one source: the same package, the same module file, or the same plugin
and plugin file. An object that a caller hands in has no source. -/
def Origin.sameSource : Origin → Origin → Bool
  | bundled p, bundled q => p == q
  | file p, file q => p.same q
  | plugin n p, plugin m q => n == m && p.same q
  | _, _ => false

/-- Two rules are the very same, or the same object. -/
def Rule.Is (a b : Rule) : Prop :=
  a = b ∨ a.sameObject b = true

/-- Origins are the same when they are one source, or both those of objects handed in. -/
theorem Origin.same_eq_true_iff (o o' : Origin) :
    o.same o' = true ↔ o.sameSource o' = true ∨ o = .object ∧ o' = .object := by
  cases o <;> cases o' <;> simp [same, sameSource]

/-- Objects handed in are of the source of nothing. -/
theorem Origin.sameSource_object (o : Origin) : o.sameSource .object = false := by
  cases o <;> rfl

namespace Registry

/-- The name of an entry is bound to its very rule, or to a rule of the same source. -/
def Honours (r : Registry) (x : RuleEntry) : Prop :=
  ∃ e, r.get? x.name = some e ∧ (e.rule.Is x.rule ∨ e.origin.sameSource x.origin = true)

/-- An entry for an object finds its name bound to another object. -/
def HoldsOtherObject (r : Registry) (x : RuleEntry) : Prop :=
  ∃ e, r.get? x.name = some e ∧ e.origin = .object ∧ x.origin = .object ∧ ¬ e.rule.Is x.rule

/-- An entry that stands for another has its rule or its source, or both are objects. -/
theorem standsFor_cases {e x : RuleEntry} (h : e.standsFor x = true) :
    e.rule.Is x.rule ∨ e.origin.sameSource x.origin = true ∨
      e.origin = .object ∧ x.origin = .object := by
  rw [RuleEntry.standsFor, Bool.or_eq_true, Origin.same_eq_true_iff] at h
  exact h.imp_left Or.inr

/-- An entry is honoured where it is provided, unless its name is bound to another object. -/
theorem Provides.honours_iff {r : Registry} {x : RuleEntry} (h : r.Provides x) :
    r.Honours x ↔ ¬ r.HoldsOtherObject x := by
  obtain ⟨e, he, hx⟩ := h
  constructor
  · rintro ⟨e₁, he₁, h₁⟩ ⟨e₂, he₂, -, horigin, hne⟩
    -- A name has one entry, so the one that is honoured is the other object.
    obtain rfl : e₁ = e₂ := Option.some.inj (he₁.symm.trans he₂)
    rcases h₁ with hrule | hsource
    · exact hne hrule
    · rw [horigin, Origin.sameSource_object] at hsource
      cases hsource
  · intro hno
    refine ⟨e, he, ?_⟩
    rcases standsFor_cases hx with hrule | hsource | ⟨he', hx'⟩
    · exact .inl hrule
    · exact .inr hsource
    · by_contra hne
      exact hno ⟨e, he, he', hx', fun hrule => hne (.inl hrule)⟩

/-- A rule that is no object handed in is honoured wherever it is provided. -/
theorem Provides.honours {r : Registry} {x : RuleEntry} (h : r.Provides x)
    (hx : x.origin ≠ .object) : r.Honours x :=
  h.honours_iff.2 fun ⟨_, _, _, horigin, _⟩ => hx horigin

/-- An object whose name holds another object is accepted, and nothing changes. -/
theorem HoldsOtherObject.enter_eq {r : Registry} {x : RuleEntry} (h : r.HoldsOtherObject x) :
    r.enter x = .ok (false, r) := by
  obtain ⟨e, he, horigin, horigin', -⟩ := h
  refine enter_of_standsFor he ?_
  rw [RuleEntry.standsFor, horigin, horigin', Origin.same_refl, Bool.or_true]

/-- Registering an entry does not change whether its name holds another object. -/
theorem holdsOtherObject_of_enter {r r' : Registry} {x : RuleEntry} {added : Bool}
    (h : r.enter x = .ok (added, r')) : r'.HoldsOtherObject x ↔ r.HoldsOtherObject x := by
  obtain ⟨hx, -, rfl⟩ | ⟨-, -, rfl⟩ := enter_eq_ok_iff.1 h
  · -- A name that was free is bound to the very rule now, and held no object before.
    constructor
    · rintro ⟨e, he, -, -, hne⟩
      rw [get?_append, if_pos rfl] at he
      cases he
      exact absurd (.inl rfl) hne
    · rintro ⟨e, he, -⟩
      rw [hx] at he
      cases he
  · rfl

/-- A registration that is accepted is honoured, unless the name was bound to another object. -/
theorem enter_honours_iff {r r' : Registry} {x : RuleEntry} {added : Bool}
    (h : r.enter x = .ok (added, r')) : r'.Honours x ↔ ¬ r.HoldsOtherObject x := by
  rw [(provides_of_enter h).honours_iff, holdsOtherObject_of_enter h]

end Registry

end ProseLinter
