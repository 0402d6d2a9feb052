import Mathlib.Data.List.Forall2
import Mathlib.Data.List.Induction
import Mathlib.Data.List.Nodup
import ProseLinter.Loading.Registry

/-!
# The order and the entries of a registry

A registry keeps the order of its names apart from their entries. `Consistent` says that the two
belong together: the order repeats no name, it lists exactly the names that have an entry, and an
entry carries the name under which it is kept. `Continues` says what a registry keeps of an earlier
one: the order of the names up to at most one new name at the end, and the rule and origin of each
name.

* `consistent_run` : every run of calls from the empty registry leaves a consistent registry.
* `forall₂_get?_entries` : a consistent registry lists one entry for each name, in order.
* `continues_call` : every call but a reset continues the registry.
* `names_entries_in_step` puts these together for all states that calls can reach.
-/

namespace ProseLinter.Registry

/-- A call that changes a registry. -/
inductive Call where
  | register (name : String) (rule : Rule) (origin : Origin) (option : RuleOption)
  | configure (name : String) (option : RuleOption)
  | reset

/-- The answer to a call. -/
inductive Reply where
  | registered (added : Bool)
  | refused (error : LintError)
  | configured (found : Bool)
  | emptied

/-- Whether an answer says that the call had nothing to do or was refused. -/
def Reply.isIdle : Reply → Bool
  | registered added => !added
  | refused _ => true
  | configured found => !found
  | emptied => false

/-- The answer to a call, and the registry after it. -/
def call (r : Registry) : Call → Reply × Registry
  | .register name rule origin option =>
    match r.register name rule origin option with
    | .ok (added, r) => (.registered added, r)
    | .error e => (.refused e, r)
  | .configure name option =>
    let (found, r) := r.configure name option
    (.configured found, r)
  | .reset => (.emptied, empty)

/-- The registry after calls, made one after the other on the empty registry. -/
def run (calls : List Call) : Registry :=
  calls.foldl (fun r c => (r.call c).2) empty

/-- The order lists each name that has an entry once, and an entry carries its name. -/
structure Consistent (r : Registry) : Prop where
  nodup : r.names.Nodup
  mem_names_iff (name : String) : name ∈ r.names ↔ r.contains name
  name_eq {name : String} {e : RuleEntry} (h : r.get? name = some e) : e.name = name

/-- The second registry keeps the order of the first, with at most one name behind it, and the rule
and origin of every name. -/
structure Continues (r r' : Registry) : Prop where
  names_eq : ∃ new, r'.names = r.names ++ new ∧ new.length ≤ 1
  bound {name : String} {e : RuleEntry} (h : r.get? name = some e) :
    ∃ e', r'.get? name = some e' ∧ e'.rule = e.rule ∧ e'.origin = e.origin

/-! ### Consistency -/

/-- A name of a consistent registry has an entry. -/
theorem Consistent.exists_get? {r : Registry} (h : r.Consistent) {name : String}
    (hn : name ∈ r.names) : ∃ e, r.get? name = some e := by
  rw [h.mem_names_iff, contains_eq_isSome_get?, Option.isSome_iff_exists] at hn
  exact hn

/-- A name without an entry is not in the order. -/
theorem Consistent.not_mem_names {r : Registry} (h : r.Consistent) {name : String}
    (hn : r.get? name = none) : name ∉ r.names := by
  rw [h.mem_names_iff, contains_eq_isSome_get?, hn]
  exact Bool.false_ne_true

theorem consistent_empty : empty.Consistent where
  nodup := List.nodup_nil
  mem_names_iff name := by simp [contains_eq_isSome_get?, empty, get?]
  name_eq h := by simp at h

/-- Appending an entry under a free name keeps the order and the entries together. -/
theorem consistent_append {r : Registry} {x : RuleEntry} (h : r.Consistent)
    (hx : r.get? x.name = none) : (r.append x).Consistent where
  nodup := by
    -- The new name is free, so it is not one of the old names.
    rw [names_append, List.nodup_append]
    refine ⟨h.nodup, List.nodup_singleton _, fun a ha b hb => ?_⟩
    rw [List.mem_singleton.1 hb]
    rintro rfl
    exact h.not_mem_names hx ha
  mem_names_iff name := by
    rw [names_append, List.mem_append, List.mem_singleton, h.mem_names_iff,
      contains_eq_isSome_get?, contains_eq_isSome_get?, get?_append]
    by_cases hn : x.name = name
    · simp [hn]
    · simp [hn, Ne.symm hn]
  name_eq {name e} he := by
    rw [get?_append] at he
    split at he
    · next hn => cases he; exact hn
    · exact h.name_eq he

/-- Setting options keeps the order and the entries together. -/
theorem consistent_configure {r : Registry} (h : r.Consistent) (name : String)
    (option : RuleOption) : (r.configure name option).2.Consistent where
  nodup := by rw [names_configure]; exact h.nodup
  mem_names_iff other := by
    rw [names_configure, h.mem_names_iff, contains_eq_isSome_get?, contains_eq_isSome_get?,
      get?_configure]
    split <;> simp
  name_eq {other e} he := by
    rw [get?_configure] at he
    split at he
    · -- The entry with the new options still carries the name of the old one.
      obtain ⟨old, hold, rfl⟩ := Option.map_eq_some_iff.1 he
      have hname : old.name = other := h.name_eq hold
      exact hname
    · exact h.name_eq he

/-- A registration that is accepted keeps the order and the entries together. -/
theorem consistent_enter {r r' : Registry} {x : RuleEntry} {added : Bool} (h : r.Consistent)
    (hr : r.enter x = .ok (added, r')) : r'.Consistent := by
  obtain ⟨hx, -, rfl⟩ | ⟨-, -, rfl⟩ := enter_eq_ok_iff.1 hr
  · exact consistent_append h hx
  · exact h

/-- Every call keeps the order and the entries together. -/
theorem consistent_call {r : Registry} (h : r.Consistent) (c : Call) :
    (r.call c).2.Consistent := by
  cases c with
  | register name rule origin option =>
    rw [call]
    split
    · next hr => exact consistent_enter h hr
    · exact h
  | configure name option => exact consistent_configure h name option
  | reset => exact consistent_empty

/-- Every registry that calls can reach from the empty one is consistent. -/
theorem consistent_run (calls : List Call) : (run calls).Consistent := by
  induction calls using List.reverseRecOn with
  | nil => exact consistent_empty
  | append_singleton calls c ih =>
    rw [run, List.foldl_append]
    exact consistent_call ih c

theorem forall₂_filterMap {α β : Type} {f : α → Option β} {items : List α}
    (h : ∀ a ∈ items, ∃ b, f a = some b) :
    List.Forall₂ (fun a b => f a = some b) items (items.filterMap f) := by
  induction items with
  | nil => exact .nil
  | cons a items ih =>
    obtain ⟨b, hb⟩ := h a List.mem_cons_self
    rw [List.filterMap_cons_some hb]
    exact .cons hb (ih fun a' ha' => h a' (List.mem_cons_of_mem a ha'))

/-- A consistent registry lists one entry for each name, in the order of the names. -/
theorem Consistent.forall₂_get?_entries {r : Registry} (h : r.Consistent) :
    List.Forall₂ (fun name e => r.get? name = some e) r.names r.entries :=
  forall₂_filterMap fun _ hn => h.exists_get? hn

/-! ### What calls keep -/

theorem continues_refl (r : Registry) : r.Continues r where
  names_eq := ⟨[], (List.append_nil _).symm, Nat.zero_le 1⟩
  bound h := ⟨_, h, rfl, rfl⟩

/-- Appending an entry under a free name continues a registry. -/
theorem continues_append {r : Registry} {x : RuleEntry} (hx : r.get? x.name = none) :
    r.Continues (r.append x) where
  names_eq := ⟨[x.name], rfl, Nat.le_refl 1⟩
  bound he := ⟨_, get?_append_of_get?_eq_some hx he, rfl, rfl⟩

/-- Setting options continues a registry. -/
theorem continues_configure (r : Registry) (name : String) (option : RuleOption) :
    r.Continues (r.configure name option).2 where
  names_eq := ⟨[], by rw [names_configure, List.append_nil], Nat.zero_le 1⟩
  bound {other e} he := by
    rw [get?_configure, he]
    split
    · exact ⟨{ e with option }, rfl, rfl, rfl⟩
    · exact ⟨e, rfl, rfl, rfl⟩

/-- Every call but a reset continues the registry. -/
theorem continues_call (r : Registry) {c : Call} (hc : c ≠ .reset) :
    r.Continues (r.call c).2 := by
  cases c with
  | register name rule origin option =>
    rw [call]
    split
    · next hr =>
      obtain ⟨hx, -, rfl⟩ | ⟨-, -, rfl⟩ := enter_eq_ok_iff.1 hr
      · exact continues_append hx
      · exact continues_refl _
    · exact continues_refl r
  | configure name option => exact continues_configure r name option
  | reset => exact absurd rfl hc

/-- A call whose answer says that there was nothing to do leaves the registry as it was. -/
theorem call_eq_self_of_isIdle {r : Registry} {c : Call} (h : (r.call c).1.isIdle = true) :
    (r.call c).2 = r := by
  cases c with
  | register name rule origin option =>
    rw [call] at h ⊢
    split at h
    · next hr =>
      obtain ⟨-, rfl, -⟩ | ⟨-, -, rfl⟩ := enter_eq_ok_iff.1 hr
      · cases h
      · rfl
    · rfl
  | configure name option =>
    cases hn : r.get? name with
    | none => rw [call, configure_of_get?_eq_none hn]
    | some e =>
      rw [call, configure_of_get?_eq_some hn] at h
      cases h
  | reset => cases h

/-- Setting options succeeds exactly for the names that are registered. -/
theorem call_configure_fst (r : Registry) (name : String) (option : RuleOption) :
    (r.call (.configure name option)).1 = .configured (r.contains name) := by
  rw [contains_eq_isSome_get?]
  cases hn : r.get? name with
  | none => rw [call, configure_of_get?_eq_none hn]; rfl
  | some e => rw [call, configure_of_get?_eq_some hn]; rfl

/-- In every state that calls reach, the order and the entries are in step and one entry is listed
for each name; every call but a reset only adds at most one name behind the others; and a call that
is refused or finds nothing to do, such as setting options of an unknown name, changes nothing. -/
theorem names_entries_in_step (calls : List Call) :
    (run calls).Consistent ∧
      List.Forall₂ (fun name e => (run calls).get? name = some e)
        (run calls).names (run calls).entries ∧
      (∀ c ≠ .reset, (run calls).Continues ((run calls).call c).2) ∧
      (∀ c, ((run calls).call c).1.isIdle = true → ((run calls).call c).2 = run calls) ∧
      ∀ name option,
        ((run calls).call (.configure name option)).1 = .configured ((run calls).contains name) := by
  have h := consistent_run calls
  exact ⟨h, h.forall₂_get?_entries, fun _ hc => continues_call _ hc,
    fun _ hc => call_eq_self_of_isIdle hc, call_configure_fst _⟩

end ProseLinter.Registry
