import Mathlib.Data.List.Basic
import ProseLinter.Json.Schema

/-!
# What schemas mean

A schema is a condition on values. `Satisfies` says what it means, without an order in which the
parts of a value are visited and without texts of violations. Validation finds no violation exactly
in the values that satisfy the schema.

* `Schema.Satisfies` : the meaning of a schema.
* `Schema.violation?_eq_none_iff` : validation is sound and complete.
-/

namespace ProseLinter.Schema

theorem mem_of_lookup_eq_some {α : Type} {fields : List (String × α)} {name : String} {a : α}
    (h : fields.lookup name = some a) : (name, a) ∈ fields := by
  obtain ⟨before, after, rfl, -⟩ := List.lookup_eq_some_iff.1 h
  exact List.mem_append_right before List.mem_cons_self

/-- The schema of a field is smaller than the list of all. -/
theorem sizeOf_lt_of_lookup {fields : List (String × Schema)} {name : String} {s : Schema}
    (h : fields.lookup name = some s) : sizeOf s < sizeOf fields := by
  have hmem := List.sizeOf_lt_of_mem (mem_of_lookup_eq_some h)
  simp only [Prod.mk.sizeOf_spec] at hmem
  omega

/-- An alternative is smaller than the list of all. -/
theorem sizeOf_lt_of_eq_append {alternatives before after : List Schema} {s : Schema}
    (h : alternatives = before ++ s :: after) : sizeOf s < sizeOf alternatives := by
  apply List.sizeOf_lt_of_mem
  rw [h]
  exact List.mem_append_right before List.mem_cons_self

/-- The other alternatives are alternatives as well. -/
theorem mem_of_eq_append {alternatives before after : List Schema} {s other : Schema}
    (h : alternatives = before ++ s :: after) (hother : other ∈ before ++ after) :
    other ∈ alternatives := by
  rw [h]
  rcases List.mem_append.1 hother with hbefore | hafter
  · exact List.mem_append_left _ hbefore
  · exact List.mem_append_right _ (List.mem_cons_of_mem s hafter)

/-- What a schema demands of a value. An object satisfies a closed schema if each of its fields is
one of those of the schema, the first of a name counting, and satisfies what is demanded of it; in
an open one only the fields of the schema count. A choice between alternatives demands that exactly
one of them is satisfied. -/
def Satisfies : Schema → Json → Prop
  | .any, _ => True
  | .boolean, v => ∃ b, v = .bool b
  | .string minLength, v => ∃ s, v = .string s ∧ minLength ≤ s.length
  | .choice values, v => ∃ s ∈ values, v = .string s
  | .array items, v => ∃ vs, v = .array vs ∧ ∀ w ∈ vs, items.Satisfies w
  | .closed fields, v =>
    ∃ entries, v = .object entries ∧
      ∀ p ∈ entries, ∃ s, ∃ _ : fields.lookup p.1 = some s, s.Satisfies p.2
  | .opened fields, v =>
    ∃ entries, v = .object entries ∧
      ∀ p ∈ entries, ∀ s, fields.lookup p.1 = some s → s.Satisfies p.2
  | .map values, v => ∃ entries, v = .object entries ∧ ∀ p ∈ entries, values.Satisfies p.2
  | .oneOf alternatives, v =>
    ∃ before s after, ∃ _ : alternatives = before ++ s :: after,
      s.Satisfies v ∧ ∀ other ∈ before ++ after, ¬ other.Satisfies v
termination_by s => sizeOf s
decreasing_by
  all_goals simp only [array.sizeOf_spec, closed.sizeOf_spec, opened.sizeOf_spec,
    map.sizeOf_spec, oneOf.sizeOf_spec]
  · omega
  · next h => exact Nat.lt_add_left 1 (sizeOf_lt_of_lookup h)
  · next h => exact Nat.lt_add_left 1 (sizeOf_lt_of_lookup h)
  · omega
  · next h => exact Nat.lt_add_left 1 (sizeOf_lt_of_eq_append h)
  · next h hother =>
    exact Nat.lt_add_left 1 (List.sizeOf_lt_of_mem (mem_of_eq_append h hother))

/-! ### Validation -/

/-- The violation by a field is one of the schema that counts for its name. -/
theorem fieldViolation?_eq (fields : List (String × Schema)) (name : String) (v : Json) :
    fieldViolation? fields name v = (fields.lookup name).map fun s => violation? s v := by
  induction fields with
  | nil => rw [fieldViolation?, List.lookup_nil, Option.map_none]
  | cons p fields ih =>
    obtain ⟨n, s⟩ := p
    rw [fieldViolation?, List.lookup_cons, BEq.comm (a := n)]
    cases name == n with
    | true => rfl
    | false => exact ih

/-- The alternatives that accept a value are counted. -/
theorem countAccepting_eq (alternatives : List Schema) (v : Json) :
    countAccepting alternatives v = alternatives.countP fun s => (violation? s v).isNone := by
  induction alternatives with
  | nil => rw [countAccepting, List.countP_nil]
  | cons s alternatives ih => rw [countAccepting, ih, List.countP_cons, Nat.add_comm]

/-- Exactly one item of a list is counted if it stands between items none of which is. -/
theorem countP_eq_one_iff {α : Type} {f : α → Bool} {items : List α} :
    items.countP f = 1 ↔ ∃ before a after, items = before ++ a :: after ∧
      f a = true ∧ ∀ b ∈ before ++ after, f b = false := by
  constructor
  · intro h
    have hpos : 0 < items.countP f := by omega
    obtain ⟨a, hmem, ha⟩ := List.countP_pos_iff.1 hpos
    obtain ⟨before, after, rfl⟩ := List.append_of_mem hmem
    refine ⟨before, a, after, rfl, ha, ?_⟩
    -- Nothing is left to count but the one.
    rw [List.countP_append, List.countP_cons_of_pos ha] at h
    have hnone : (before ++ after).countP f = 0 := by
      rw [List.countP_append]
      omega
    simpa using List.countP_eq_zero.1 hnone
  · rintro ⟨before, a, after, rfl, ha, hothers⟩
    have hnone : (before ++ after).countP f = 0 := by
      rw [List.countP_eq_zero]
      intro b hb
      simp [hothers b hb]
    rw [List.countP_append] at hnone
    rw [List.countP_append, List.countP_cons_of_pos ha]
    omega

theorem violation?_oneOf_eq_none_iff {alternatives : List Schema} {v : Json} :
    violation? (.oneOf alternatives) v = none ↔ ∃ before s after,
      alternatives = before ++ s :: after ∧ violation? s v = none ∧
        ∀ other ∈ before ++ after, violation? other v ≠ none := by
  have hcount : violation? (.oneOf alternatives) v = none ↔ countAccepting alternatives v = 1 := by
    rw [violation?]
    split <;> simp_all
  rw [hcount, countAccepting_eq, countP_eq_one_iff]
  simp only [Option.isNone_iff_eq_none, Option.isNone_eq_false_iff, Option.isSome_iff_ne_none]

/-- A field that the schema knows is checked, and any other one is unexpected. -/
theorem violation?_closed_eq_none_iff {fields : List (String × Schema)}
    {entries : List (String × Json)} :
    violation? (.closed fields) (.object entries) = none ↔
      ∀ p ∈ entries, ∃ s, fields.lookup p.1 = some s ∧ violation? s p.2 = none := by
  rw [violation?, List.findSome?_eq_none_iff]
  refine forall₂_congr fun p _ => ?_
  simp only [fieldViolation?_eq]
  cases fields.lookup p.1 <;> simp

/-- A field that the schema knows is checked, and any other one is passed over. -/
theorem violation?_opened_eq_none_iff {fields : List (String × Schema)}
    {entries : List (String × Json)} :
    violation? (.opened fields) (.object entries) = none ↔
      ∀ p ∈ entries, ∀ s, fields.lookup p.1 = some s → violation? s p.2 = none := by
  rw [violation?, List.findSome?_eq_none_iff]
  refine forall₂_congr fun p _ => ?_
  simp only [fieldViolation?_eq]
  cases fields.lookup p.1 <;> simp

theorem violation?_array_eq_none_iff {items : Schema} {vs : List Json} :
    violation? (.array items) (.array vs) = none ↔ ∀ w ∈ vs, violation? items w = none := by
  rw [violation?, List.findSome?_eq_none_iff]
  simp only [Option.map_eq_none_iff]
  -- The items are numbered for the path of a violation, which does not matter here.
  constructor
  · intro h w hw
    obtain ⟨i, hi, rfl⟩ := List.getElem_of_mem hw
    exact h (vs[i], i) (by simp [List.mem_zipIdx_iff_getElem?, hi])
  · rintro h ⟨w, i⟩ hw
    exact h w (List.fst_mem_of_mem_zipIdx hw)

theorem violation?_map_eq_none_iff {values : Schema} {entries : List (String × Json)} :
    violation? (.map values) (.object entries) = none ↔
      ∀ p ∈ entries, violation? values p.2 = none := by
  rw [violation?, List.findSome?_eq_none_iff]
  simp only [Option.map_eq_none_iff]

/-- Validation finds no violation exactly in the values that satisfy the schema. -/
theorem violation?_eq_none_iff (s : Schema) (v : Json) :
    violation? s v = none ↔ s.Satisfies v := by
  -- By induction on the schema; a value of another type than it demands is a violation.
  match s with
  | .any => simp [violation?, Satisfies]
  | .boolean => cases v <;> simp [violation?, Satisfies, wrongType]
  | .string minLength =>
    cases v with
    | string text => by_cases h : minLength ≤ text.length <;> simp [violation?, Satisfies, h]
    | _ => simp [violation?, Satisfies, wrongType]
  | .choice values =>
    cases v with
    | string text => by_cases h : text ∈ values <;> simp [violation?, Satisfies, notListed, h]
    | _ => simp [violation?, Satisfies, notListed]
  | .array items =>
    have ih (w : Json) := violation?_eq_none_iff items w
    cases v with
    | array vs => simp [violation?_array_eq_none_iff, Satisfies, ih]
    | _ => simp [violation?, Satisfies, wrongType]
  | .closed fields =>
    have ih {name : String} {s : Schema} (h : fields.lookup name = some s) (w : Json) :=
      violation?_eq_none_iff s w
    cases v with
    | object entries =>
      simp only [violation?_closed_eq_none_iff, Satisfies, Json.object.injEq, exists_eq_left',
        exists_prop]
      refine forall₂_congr fun p _ => exists_congr fun s => ?_
      exact and_congr_right fun h => ih h p.2
    | _ => simp [violation?, Satisfies, wrongType]
  | .opened fields =>
    have ih {name : String} {s : Schema} (h : fields.lookup name = some s) (w : Json) :=
      violation?_eq_none_iff s w
    cases v with
    | object entries =>
      simp only [violation?_opened_eq_none_iff, Satisfies, Json.object.injEq, exists_eq_left']
      refine forall₂_congr fun p _ => forall_congr' fun s => ?_
      exact imp_congr_right fun h => ih h p.2
    | _ => simp [violation?, Satisfies, wrongType]
  | .map values =>
    have ih (w : Json) := violation?_eq_none_iff values w
    cases v with
    | object entries => simp [violation?_map_eq_none_iff, Satisfies, ih]
    | _ => simp [violation?, Satisfies, wrongType]
  | .oneOf alternatives =>
    -- The alternatives that are not satisfied count as well, so all of them are looked at.
    have ih {s : Schema} (h : s ∈ alternatives) := violation?_eq_none_iff s v
    rw [violation?_oneOf_eq_none_iff, Satisfies]
    refine exists_congr fun before => exists_congr fun s => exists_congr fun after => ?_
    rw [exists_prop]
    refine and_congr_right fun halternatives => ?_
    have hmem : s ∈ alternatives := by
      rw [halternatives]
      exact List.mem_append_right before List.mem_cons_self
    refine and_congr (ih hmem) (forall₂_congr fun other hother => ?_)
    exact not_congr (ih (mem_of_eq_append halternatives hother))
termination_by sizeOf s
decreasing_by
  all_goals simp only [array.sizeOf_spec, closed.sizeOf_spec, opened.sizeOf_spec,
    map.sizeOf_spec, oneOf.sizeOf_spec]
  · omega
  · exact Nat.lt_add_left 1 (sizeOf_lt_of_lookup h)
  · exact Nat.lt_add_left 1 (sizeOf_lt_of_lookup h)
  · omega
  · exact Nat.lt_add_left 1 (List.sizeOf_lt_of_mem h)

end ProseLinter.Schema
