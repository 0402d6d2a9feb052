import ProseLinter.Rule.Message

/-!
# Options of a rule

What a configuration says about one rule: a boolean switches it on or off, a string sets its
severity or switches it off, and any other value holds options, an object possibly with a severity
among them.

* `RuleOption.ofJson` and `RuleOption.toJson` are inverse to each other.
* `RuleOption.isEnabled`, `RuleOption.severity` and `RuleOption.options` are the three views.
-/

namespace ProseLinter

/-- What a configuration says about a rule. -/
inductive RuleOption where
  | enabled (value : Bool)
  | severity (name : String)
  | options (value : Json)

instance : Inhabited RuleOption := ⟨.enabled true⟩

namespace RuleOption

/-- A rule about which nothing is said is on. -/
def default : RuleOption :=
  .enabled true

/-- Every JSON value says something about a rule. -/
def ofJson : Json → RuleOption
  | .bool b => .enabled b
  | .string s => .severity s
  | v => .options v

/-- The JSON value. -/
def toJson : RuleOption → Json
  | .enabled b => .bool b
  | .severity s => .string s
  | .options v => v

/-- The severity as written, if there is one. -/
def severityName? : RuleOption → Option String
  | .enabled _ => none
  | .severity s => some s
  | .options v => (v.field? "severity").bind Json.asString?

/-- Whether the rule is on. -/
def isEnabled : RuleOption → Bool
  | .enabled b => b
  | o => o.severityName? != some "off"

/-- The severity that all messages of the rule get, if a known one is written. -/
def forced (o : RuleOption) : Option Severity :=
  o.severityName?.bind fun name => (Severity.parse name).toOption

/-- What the rule itself gets to see: the options without the severity. -/
def forRule : RuleOption → Json
  | .enabled _ => .null
  | .severity _ => .null
  | .options (.object fields) =>
    match fields.filter (·.1 != "severity") with
    | [] => .null
    | rest => .object rest
  | .options v => v

/-- Writing what was read gives the value back. -/
theorem toJson_ofJson (v : Json) : (ofJson v).toJson = v := by
  cases v <;> rfl

end RuleOption

end ProseLinter
