import ProseLinter.Config.RuleOption

/-!
# What an option says

An option switches its rule off in three ways, and it has a severity in two: it is one, or it holds
one among the options for the rule. A severity may be any value there; only the known ones count.

* `Severity.written` : the known severities as a configuration writes them.
* `RuleOption.isEnabled_eq_false_iff` : a rule is off only if it is switched off.
* `RuleOption.isSome_forced_iff` : a severity is forced on the messages if a known one is there.
-/

namespace ProseLinter

namespace Severity

/-- The severities as a configuration writes them. -/
def written : List (String × Severity) :=
  [("info", info), ("warning", warning), ("warn", warning), ("error", error)]

theorem parse_of_mem_written {text : String} {severity : Severity}
    (h : (text, severity) ∈ written) : (parse text).toOption = some severity := by
  simp only [written, List.mem_cons, Prod.mk.injEq, List.not_mem_nil, or_false] at h
  rcases h with ⟨rfl, rfl⟩ | ⟨rfl, rfl⟩ | ⟨rfl, rfl⟩ | ⟨rfl, rfl⟩ <;> decide +kernel

theorem ne_off_of_mem_written {text : String} {severity : Severity}
    (h : (text, severity) ∈ written) : text ≠ "off" := by
  rintro rfl
  simp [written] at h

end Severity

namespace RuleOption

variable {o : RuleOption}

/-- The ways to switch a rule off. -/
inductive SwitchesOff : RuleOption → Prop
  | disabled : SwitchesOff (.enabled false)
  | severity : SwitchesOff (.severity "off")
  | options {fields : List (String × Json)}
      (h : (Json.object fields).field? "severity" = some (.string "off")) :
      SwitchesOff (.options (.object fields))

/-- The option has a severity, which is written as a value of any kind. -/
inductive HasSeverity : RuleOption → Json → Prop
  | severity (name : String) : HasSeverity (.severity name) (.string name)
  | options {v written : Json} (h : v.field? "severity" = some written) :
      HasSeverity (.options v) written

/-- A severity counts if it is written as a string. -/
theorem severityName?_eq_some_iff {name : String} :
    o.severityName? = some name ↔ o.HasSeverity (.string name) := by
  constructor
  · intro h
    cases o with
    | enabled b => cases h
    | severity text =>
      cases h
      exact .severity name
    | options v =>
      obtain ⟨written, hwritten, hname⟩ := Option.bind_eq_some_iff.1 h
      cases written with
      | string text =>
        cases hname
        exact .options hwritten
      | _ => cases hname
  · intro h
    cases h with
    | severity => rfl
    | options h => rw [severityName?, h, Option.bind_some, Json.asString?]

/-- A rule is off only if it is switched off. -/
theorem isEnabled_eq_false_iff : o.isEnabled = false ↔ o.SwitchesOff := by
  constructor
  · intro h
    cases o with
    | enabled b =>
      obtain rfl : b = false := h
      exact .disabled
    | severity name =>
      obtain rfl : name = "off" := by simpa [isEnabled, severityName?] using h
      exact .severity
    | options v =>
      have hname : (options v).severityName? = some "off" := by simpa [isEnabled] using h
      cases severityName?_eq_some_iff.1 hname with
      | options h =>
        -- Only an object has fields.
        cases v with
        | object fields => exact .options h
        | _ => cases h
  · intro h
    cases h with
    | disabled => rfl
    | severity => simp [isEnabled, severityName?]
    | options h => simp [isEnabled, severityName?, h, Json.asString?]

/-- A severity is forced on the messages of a rule that is on, provided that the one that is written
is known or says that the rule is off. -/
theorem isSome_forced_iff
    (hknown : ∀ written, o.HasSeverity written →
      ∃ name, written = .string name ∧ (name = "off" ∨ ∃ s, (name, s) ∈ Severity.written))
    (hon : o.isEnabled = true) :
    o.forced.isSome = true ↔ ∃ written, o.HasSeverity written := by
  constructor
  · intro h
    obtain ⟨severity, hforced⟩ := Option.isSome_iff_exists.1 h
    obtain ⟨name, hname, -⟩ := Option.bind_eq_some_iff.1 hforced
    exact ⟨.string name, severityName?_eq_some_iff.1 hname⟩
  · rintro ⟨written, hwritten⟩
    obtain ⟨name, rfl, rfl | ⟨severity, hseverity⟩⟩ := hknown written hwritten
    · -- The rule would be off.
      have hname := severityName?_eq_some_iff.2 hwritten
      cases hwritten with
      | severity => simp [isEnabled, hname] at hon
      | options => simp [isEnabled, hname] at hon
    · have hparse := Severity.parse_of_mem_written hseverity
      rw [forced, severityName?_eq_some_iff.2 hwritten, Option.bind_some, hparse]
      rfl

end RuleOption

end ProseLinter
