import Mathlib.Data.List.Sort
import ProseLinter.Engine.Basic
import ProseLinter.Proofs.Config.RuleOption
import ProseLinter.Proofs.Json.Ordered

/-!
# Options and the values they are read from

An option is read by trying three forms in order: a boolean, a string and any other value. It is
nothing but the value seen so, and what a rule gets to see of an object is the object without its
severity.

* `RuleOption.Reads` : an option is read from a value.
* `Json.IsWithout` : an object without a field, or null if nothing else is left of it.
* `Json.eq_of_field?_eq` : an object is determined by its fields.
* `RuleOption.faithful_to_json` : what an option says of the value it was read from.
-/

namespace ProseLinter

/-! ### Objects and their fields -/

namespace Json

variable {name other : String} {v : Json} {fields fields' : List (String × Json)}

/-- The fields of an object of which no two have one name are those that are found. -/
theorem mem_iff_field?_eq (h : fields.Pairwise (·.1 ≠ ·.1)) :
    (name, v) ∈ fields ↔ (Json.object fields).field? name = some v := by
  induction fields with
  | nil => simp [field?]
  | cons p fields ih =>
    obtain ⟨n, w⟩ := p
    obtain ⟨hhead, htail⟩ := List.pairwise_cons.1 h
    rw [List.mem_cons, ih htail]
    by_cases hname : n = name
    · subst hname
      -- No field behind the first one has its name.
      have hnone := field?_eq_none fun p hp => (hhead p hp).symm
      rw [field?_cons_self, hnone]
      simp [eq_comm]
    · rw [field?_cons_of_ne hname]
      simp [Ne.symm hname]

/-- An object that has its fields in order is determined by what is found for each name. -/
theorem eq_of_field?_eq (h : (Json.object fields).Ordered) (h' : (Json.object fields').Ordered)
    (hfield : ∀ name, (Json.object fields).field? name = (Json.object fields').field? name) :
    fields = fields' := by
  have hirrefl : Std.Irrefl fun p q : String × Json => p.1 < q.1 :=
    ⟨fun p => String.lt_irrefl p.1⟩
  -- A strict order has no two pairs in both orders, so it orders the fields in one way only.
  have hantisymm : Std.Antisymm fun p q : String × Json => p.1 < q.1 :=
    ⟨fun _ _ hlt hlt' => absurd hlt (String.lt_asymm hlt')⟩
  have hmem : ∀ p, p ∈ fields ↔ p ∈ fields' := by
    rintro ⟨name, v⟩
    rw [mem_iff_field?_eq h.pairwise, mem_iff_field?_eq h'.pairwise, hfield]
  cases h with
  | object hpairwise _ =>
    cases h' with
    | object hpairwise' _ => exact hpairwise.eq_of_mem_iff hpairwise' hmem

/-- Without the fields of a name the others are found as before. -/
theorem field?_filter_ne (name other : String) (fields : List (String × Json)) :
    (Json.object (fields.filter (·.1 != name))).field? other =
      if other = name then none else (Json.object fields).field? other := by
  split
  · next heq =>
    subst heq
    exact field?_eq_none fun p hp => by simpa using (List.mem_filter.1 hp).2
  · next hne =>
    rw [field?, field?, List.find?_filter]
    congr 2
    funext p
    by_cases hp : p.1 = other
    · simp [hp, hne]
    · simp [hp]

theorem Ordered.filter (h : (Json.object fields).Ordered) (keeps : String × Json → Bool) :
    (Json.object (fields.filter keeps)).Ordered := by
  cases h with
  | object hpairwise hvalues =>
    exact .object (hpairwise.filter keeps) fun p hp => hvalues p (List.mem_filter.1 hp).1

/-- An object without the field of a name: every other is found in it as before. If there is no
other, null stands for it. -/
inductive IsWithout (name : String) (fields : List (String × Json)) : Json → Prop
  | nothing (h : ∀ p ∈ fields, p.1 = name) : IsWithout name fields .null
  | rest {rest : List (String × Json)} (hne : rest ≠ []) (hordered : (Json.object rest).Ordered)
      (hfield : ∀ other, (Json.object rest).field? other =
        if other = name then none else (Json.object fields).field? other) :
      IsWithout name fields (.object rest)

/-- What is found in an object is found in it without a field, but for that field. -/
theorem IsWithout.field?_eq (h : IsWithout name fields v) (other : String) :
    v.field? other = if other = name then none else (Json.object fields).field? other := by
  cases h with
  | nothing h =>
    split
    · rfl
    · next hne =>
      refine (field?_eq_none fun p hp => ?_).symm
      rw [h p hp]
      exact Ne.symm hne
  | rest _ _ hfield => exact hfield other

end Json

namespace RuleOption

variable {o : RuleOption} {v : Json} {fields fields' : List (String × Json)}

/-! ### Reading -/

/-- An option is read from a value: as a boolean, or else as a string, or else as the value
itself. -/
inductive Reads (v : Json) : RuleOption → Prop
  | enabled {b : Bool} (h : Json.decodeBool v = .ok b) : Reads v (.enabled b)
  | severity {e : DecodeError} {name : String} (hbool : Json.decodeBool v = .error e)
      (h : Json.decodeString v = .ok name) : Reads v (.severity name)
  | options {e e' : DecodeError} (hbool : Json.decodeBool v = .error e)
      (hstring : Json.decodeString v = .error e') : Reads v (.options v)

theorem reads_ofJson (v : Json) : Reads v (ofJson v) := by
  cases v with
  | bool b => exact .enabled rfl
  | string s => exact .severity rfl rfl
  | null | number | array | object => exact .options rfl rfl

/-- There is one option for each value. -/
theorem reads_iff : Reads v o ↔ o = ofJson v := by
  constructor
  · intro h
    cases h with
    | enabled h =>
      cases v with
      | bool b =>
        cases h
        rfl
      | _ => cases h
    | severity hbool h =>
      cases v with
      | string s =>
        cases h
        rfl
      | _ => cases h
    | options hbool hstring =>
      cases v with
      | bool b => cases hbool
      | string s => cases hstring
      | null | number | array | object => rfl
  · rintro rfl
    exact reads_ofJson v

/-- An option is off exactly if it was read from false, from the string `off` or from an object with
that severity. -/
theorem isEnabled_ofJson_eq_false_iff :
    (ofJson v).isEnabled = false ↔
      v = .bool false ∨ v = .string "off" ∨
        ∃ fields, v = .object fields ∧
          (Json.object fields).field? "severity" = some (.string "off") := by
  rw [isEnabled_eq_false_iff]
  constructor
  · intro h
    have hread : (ofJson v).toJson = v := toJson_ofJson v
    generalize ofJson v = o at h hread
    cases h with
    | disabled => exact .inl hread.symm
    | severity => exact .inr (.inl hread.symm)
    | options h => exact .inr (.inr ⟨_, hread.symm, h⟩)
  · rintro (rfl | rfl | ⟨fields, rfl, h⟩)
    · exact .disabled
    · exact .severity
    · exact .options h

/-! ### What the rule gets to see -/

/-- The options for a rule are the object without its severity. -/
theorem isWithout_forRule (h : (Json.object fields).Ordered) :
    Json.IsWithout "severity" fields (ofJson (.object fields)).forRule := by
  show Json.IsWithout "severity" fields (options (.object fields)).forRule
  rw [forRule]
  split
  · next hnil =>
    refine .nothing fun p hp => ?_
    have hdropped := List.filter_eq_nil_iff.1 hnil p hp
    simpa using hdropped
  · next rest hne =>
    exact .rest hne (h.filter _) fun other => Json.field?_filter_ne "severity" other fields

/-- The options for a rule have no severity. -/
theorem field?_forRule (o : RuleOption) : o.forRule.field? "severity" = none := by
  cases o with
  | enabled b => rfl
  | severity name => rfl
  | options v =>
    cases v with
    | object fields =>
      rw [forRule]
      split
      · rfl
      · have hfield := Json.field?_filter_ne "severity" "severity" fields
        rwa [if_pos rfl] at hfield
    | null | bool | number | string | array => rfl

/-- There are options for a rule unless an object has nothing but a severity. -/
theorem forRule_eq_null_iff :
    (ofJson (.object fields)).forRule = .null ↔ ∀ p ∈ fields, p.1 = "severity" := by
  have hnil : fields.filter (·.1 != "severity") = [] ↔ ∀ p ∈ fields, p.1 = "severity" := by
    rw [List.filter_eq_nil_iff]
    simp
  show (options (.object fields)).forRule = .null ↔ _
  rw [forRule, ← hnil]
  split
  · next h => exact iff_of_true rfl h
  · next rest hne => exact iff_of_false (by simp) hne

/-- An object is determined by the options for the rule and its severity. -/
theorem eq_of_forRule_eq (h : (Json.object fields).Ordered) (h' : (Json.object fields').Ordered)
    (hoptions : (ofJson (.object fields)).forRule = (ofJson (.object fields')).forRule)
    (hseverity : (Json.object fields).field? "severity" =
      (Json.object fields').field? "severity") :
    fields = fields' := by
  refine Json.eq_of_field?_eq h h' fun other => ?_
  by_cases hother : other = "severity"
  · rw [hother, hseverity]
  · have hfield := (isWithout_forRule h).field?_eq other
    have hfield' := (isWithout_forRule h').field?_eq other
    rw [if_neg hother] at hfield hfield'
    rw [← hfield, ← hfield', hoptions]

/-- A rule that runs has the options of an option that is on. -/
theorem exists_of_mem_activeRules {s : Engine.State} {a : ActiveRule}
    (ha : a ∈ Engine.activeRules s) :
    ∃ o : RuleOption, o.isEnabled = true ∧ a.options = o.forRule := by
  obtain ⟨e, -, hentry⟩ := List.mem_filterMap.1 ha
  rw [ActiveRule.ofEntry] at hentry
  split at hentry
  · next hon =>
    cases hentry
    exact ⟨_, hon, rfl⟩
  · cases hentry

/-- An option is a faithful view of a value: it is the only one that is read from the value, and is
written as it again. What a rule gets to see, of an option or when it runs, has no severity; of an
object it is the object without it, null if nothing else is there, and both together determine the
object. The rule is off exactly for the three values that say so. -/
theorem faithful_to_json :
    (∀ v, ∃! o, Reads v o) ∧
    (∀ v o, Reads v o → o.toJson = v) ∧
    (∀ o : RuleOption, o.forRule.field? "severity" = none) ∧
    (∀ s, ∀ a ∈ Engine.activeRules s, a.options.field? "severity" = none) ∧
    (∀ fields, (Json.object fields).Ordered →
      Json.IsWithout "severity" fields (ofJson (.object fields)).forRule ∧
      ((ofJson (.object fields)).forRule = .null ↔ ∀ p ∈ fields, p.1 = "severity") ∧
      ∀ fields', (Json.object fields').Ordered →
        (ofJson (.object fields)).forRule = (ofJson (.object fields')).forRule →
        (Json.object fields).field? "severity" = (Json.object fields').field? "severity" →
        fields = fields') ∧
    ∀ v o, Reads v o →
      (o.isEnabled = false ↔
        v = .bool false ∨ v = .string "off" ∨
          ∃ fields, v = .object fields ∧
            (Json.object fields).field? "severity" = some (.string "off")) := by
  refine ⟨?_, ?_, field?_forRule, ?_, ?_, ?_⟩
  · intro v
    exact ⟨ofJson v, reads_ofJson v, fun o h => reads_iff.1 h⟩
  · intro v o h
    rw [reads_iff.1 h, toJson_ofJson]
  · intro s a ha
    obtain ⟨o, -, hoptions⟩ := exists_of_mem_activeRules ha
    rw [hoptions, field?_forRule]
  · intro fields h
    exact ⟨isWithout_forRule h, forRule_eq_null_iff, fun fields' h' => eq_of_forRule_eq h h'⟩
  · intro v o h
    rw [reads_iff.1 h, isEnabled_ofJson_eq_false_iff]

/-- Fields with a severity among them. -/
def severeFields : List (String × Json) :=
  [("max", .number (.int 40)), ("severity", .string "off"), ("z", .null)]

theorem severeFields_faithful_to_json :
    (Json.object severeFields).Ordered ∧
      Json.IsWithout "severity" severeFields (ofJson (.object severeFields)).forRule ∧
      Reads (.object severeFields) (.options (.object severeFields)) ∧
      (RuleOption.options (.object severeFields)).isEnabled = false := by
  have hordered : (Json.object severeFields).Ordered := by
    refine .object (by decide) ?_
    rw [severeFields, List.forall_mem_cons, List.forall_mem_cons, List.forall_mem_singleton]
    exact ⟨.number _, .string _, .null⟩
  have hreads : Reads (.object severeFields) (.options (.object severeFields)) := .options rfl rfl
  obtain ⟨-, -, -, -, hobject, hoff⟩ := faithful_to_json
  exact ⟨hordered, (hobject _ hordered).1, hreads,
    (hoff _ _ hreads).2 (.inr (.inr ⟨_, rfl, rfl⟩))⟩

end RuleOption

end ProseLinter
