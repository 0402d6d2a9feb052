import ProseLinter.Document.Node
import ProseLinter.Rule.Error
import ProseLinter.Rule.Message

/-!
# Rules

A rule looks at a document and reports findings; it may also fail, and then keeps the findings it
reported before. A rule sees the document through a context that also names the rule, holds its
options and knows the severity that a configuration forces on all its messages.

* `Rule.Context.message` makes a message from a finding: its position is that of the span's start.
* `Rule.sameObject` says when two rules are one object that callers share.
-/

namespace ProseLinter

/-- What a rule has to say of a span. -/
structure Finding where
  span : Span
  text : String
  severity : Severity
deriving DecidableEq, Repr

/-- What a rule sees. -/
structure Rule.Context where
  ruleId : String
  document : Node
  source : List Char
  lines : LineIndex
  filePath : Option String
  options : Json
  /-- The severity of all messages, if a configuration sets one. -/
  forced : Option Severity

namespace Rule.Context

/-- The message for a finding. -/
def message (c : Context) (f : Finding) : Message :=
  let position := c.lines.position f.span.start
  { ruleId := c.ruleId, text := f.text, line := position.line, column := position.column
    severity := c.forced.getD f.severity, span := f.span }

/-- The options read as a type; null stands for the default. -/
def readOptions {α : Type} (c : Context) (default : α) (decode : Json.Decoder α) :
    Except RuleError α :=
  if c.options.isNull then .ok default
  else (decode c.options).mapError fun e => .invalidOptions c.ruleId e.message

end Rule.Context

/-- The findings of a rule, and why it failed if it did. -/
structure Rule.Report where
  findings : List Finding
  failure : Option RuleError

namespace Rule.Report

/-- The report of a rule that either has findings or fails without any. -/
def ofExcept : Except RuleError (List Finding) → Report
  | .ok findings => ⟨findings, none⟩
  | .error e => ⟨[], some e⟩

/-- The messages for the findings of a report. -/
def messages (r : Report) (c : Context) : List Message :=
  r.findings.map c.message

end Rule.Report

/-- A rule: a description and a check. The tag tells objects apart that callers hold and share;
a rule that was just made and is held by nobody else has none. -/
structure Rule where
  tag : Option Nat
  description : String
  check : Rule.Context → Rule.Report

/-- Whether two rules are the same object. -/
def Rule.sameObject (a b : Rule) : Bool :=
  match a.tag, b.tag with
  | some x, some y => x == y
  | _, _ => false

end ProseLinter
