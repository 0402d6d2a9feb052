import ProseLinter.Document.Span
import ProseLinter.Json.Decode

/-!
# Messages

A message reports a finding of a rule: its text, where it is and how severe it is.

* `Severity.parse` reads the name of a severity as written in a configuration.
* `Message.toJson` and `Message.decode` are the JSON form of a message.
-/

namespace ProseLinter

/-- How severe a finding is. -/
inductive Severity where
  | info
  | warning
  | error
deriving DecidableEq, Repr, Inhabited

namespace Severity

/-- The name of a severity. -/
def name : Severity → String
  | info => "info"
  | warning => "warning"
  | error => "error"

/-- The place of a severity in the order from the mildest on. -/
def rank : Severity → Nat
  | info => 0
  | warning => 1
  | error => 2

/-- Reads a severity in letters of any case; a warning has a short name too. -/
def parse (text : String) : Except String Severity :=
  match text.toLower with
  | "info" => .ok info
  | "warning" | "warn" => .ok warning
  | "error" => .ok error
  | other => .error ("unknown severity '" ++ other ++ "'")

/-- Reads the name of a severity. -/
def decode : Json.Decoder Severity :=
  Json.decodeVariant [("info", info), ("warning", warning), ("error", error)]

/-- The severity as a JSON string. -/
def toJson (s : Severity) : Json :=
  .string s.name

end Severity

namespace Span

/-- The JSON form of a span. -/
def toJson (s : Span) : Json :=
  Json.ofFields [("start", .ofNat s.start), ("end", .ofNat s.stop)]

/-- The reading of a span: both ends are required. -/
def record : Json.Record (Option Nat × Option Nat) where
  name := "Span"
  fieldNames := ["start", "end"]
  closed := false
  start := (none, none)
  set name v acc := do
    let n ← Json.decodeNat 32 "u32" v
    return if name == "start" then (some n, acc.2) else (acc.1, some n)

/-- Reads a span. -/
def decode : Json.Decoder Span :=
  record.decode fun shape (start?, stop?) => do
    let some start := start? | record.absent shape "start"
    let some stop := stop? | record.absent shape "end"
    return ⟨start, stop⟩

end Span

/-- A finding of a rule. -/
structure Message where
  ruleId : String
  text : String
  line : Nat
  column : Nat
  severity : Severity
  span : Span
deriving DecidableEq, Repr

namespace Message

/-- Whether a message is an error. -/
def isError (m : Message) : Bool :=
  m.severity == .error

/-- The JSON form of a message. -/
def toJson (m : Message) : Json :=
  Json.ofFields
    [("ruleId", .string m.ruleId), ("message", .string m.text), ("line", .ofNat m.line),
     ("column", .ofNat m.column), ("severity", m.severity.toJson), ("span", m.span.toJson)]

/-- A message whose fields are read one by one. -/
structure Draft where
  ruleId : Option String := none
  text : Option String := none
  line : Option Nat := none
  column : Option Nat := none
  severity : Severity := .error
  span : Option Span := none

/-- The reading of a message: only the severity may be absent. -/
def record : Json.Record Draft where
  name := "LintMessage"
  fieldNames := ["ruleId", "message", "line", "column", "severity", "span"]
  closed := false
  start := {}
  set name v d :=
    match name with
    | "ruleId" => return { d with ruleId := some (← Json.decodeString v) }
    | "message" => return { d with text := some (← Json.decodeString v) }
    | "line" => return { d with line := some (← Json.decodeNat 32 "u32" v) }
    | "column" => return { d with column := some (← Json.decodeNat 32 "u32" v) }
    | "severity" => return { d with severity := ← Severity.decode v }
    | _ => return { d with span := some (← Span.decode v) }

/-- Reads a message. -/
def decode : Json.Decoder Message :=
  record.decode fun shape d => do
    let some ruleId := d.ruleId | record.absent shape "ruleId"
    let some text := d.text | record.absent shape "message"
    let some line := d.line | record.absent shape "line"
    let some column := d.column | record.absent shape "column"
    let some span := d.span | record.absent shape "span"
    return { ruleId, text, line, column, severity := d.severity, span }

end Message

end ProseLinter
