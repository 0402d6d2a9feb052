import ProseLinter.Json.Printer
import ProseLinter.Report.Result

/-!
# Built-in report formats

A report format makes a report of results. A format with aligned columns pads texts, and texts can
only be padded up to a greatest width: a wider column stops the program.

* `stylish` : a block for each file with aligned columns, then a summary.
* `compact` and `unix` : a line for each message, then the number of messages.
* `json` : the results as JSON.
-/

namespace ProseLinter

/-- The width of a column that is too wide for texts to be padded to it. -/
structure TooWide where
  width : Nat
deriving DecidableEq, Repr

/-- The text of the fault. -/
def TooWide.message (_ : TooWide) : String :=
  "Formatting argument out of range"

/-- A report format: the report, unless a column is too wide. -/
abbrev Formatter := List FileResult → Except TooWide String

namespace Formatter

/-- A number of things. -/
def plural (count : Nat) (noun : String) : String :=
  toString count ++ " " ++ noun ++ if count == 1 then "" else "s"

/-- The greatest width that texts can be padded to. -/
def widthLimit : Nat := 65535

/-- The text with blanks in front up to a width. -/
def alignRight (width : Nat) (s : String) : String :=
  String.ofList (List.replicate (width - s.length) ' ') ++ s

/-- The text with blanks behind up to a width. -/
def alignLeft (width : Nat) (s : String) : String :=
  s ++ String.ofList (List.replicate (width - s.length) ' ')

/-! ### Stylish -/

/-- The line and column of a message. -/
def positionText (m : Message) : String :=
  toString m.line ++ ":" ++ toString m.column

/-- The greatest length of texts. -/
def widest (texts : List String) : Nat :=
  texts.foldl (fun n s => max n s.length) 0

/-- The widths of the columns of a block. -/
structure Widths where
  position : Nat
  severity : Nat
  text : Nat

/-- The widths that the messages of a block need. -/
def Widths.ofMessages (messages : List Message) : Widths where
  position := widest (messages.map positionText)
  severity := widest (messages.map (·.severity.name))
  text := widest (messages.map (·.text))

/-- The first of the widths that texts cannot be padded to. -/
def Widths.tooWide? (w : Widths) : Option TooWide :=
  ([w.position, w.severity, w.text].find? (widthLimit < ·)).map TooWide.mk

/-- The row of a message. -/
def stylishRow (w : Widths) (m : Message) : String :=
  "  " ++ alignRight w.position (positionText m) ++ "  " ++ alignLeft w.severity m.severity.name
    ++ "  " ++ alignLeft w.text m.text ++ "  " ++ m.ruleId ++ "\n"

/-- The block of a file: its path, a row for each message and an empty line. -/
def stylishBlock (r : FileResult) : Except TooWide String :=
  let w := Widths.ofMessages r.messages
  match w.tooWide? with
  | some fault => .error fault
  | none => .ok (r.filePath ++ "\n" ++ String.join (r.messages.map (stylishRow w)) ++ "\n")

/-- The last line of the stylish format. -/
def stylishSummary (s : Summary) : String :=
  "✖ " ++ plural s.problems "problem" ++ " (" ++ plural s.errors "error" ++ ", "
    ++ plural s.warnings "warning" ++ ")\n"

/-- Blocks of aligned rows and a summary; nothing when there is no message. -/
def stylish : Formatter := fun results => do
  let summary := Summary.ofResults results
  if summary.problems == 0 then return ""
  let blocks ← (results.filter fun r => !r.messages.isEmpty).mapM stylishBlock
  return String.join blocks ++ stylishSummary summary

/-! ### One line for each message -/

/-- The number of messages after an empty line, if there are any. -/
def countLine (results : List FileResult) : String :=
  let summary := Summary.ofResults results
  if summary.problems == 0 then "" else "\n" ++ plural summary.problems "problem" ++ "\n"

/-- A line for each message, then the number of messages. -/
def lineByLine (line : FileResult → Message → String) (results : List FileResult) : String :=
  String.join (results.flatMap fun r => r.messages.map fun m => line r m ++ "\n")
    ++ countLine results

/-- The name of a severity in the compact format. -/
def severityLabel : Severity → String
  | .error => "Error"
  | .warning => "Warning"
  | .info => "Info"

/-- The line of a message in the compact format. -/
def compactLine (r : FileResult) (m : Message) : String :=
  r.filePath ++ ": line " ++ toString m.line ++ ", col " ++ toString m.column ++ ", "
    ++ severityLabel m.severity ++ " - " ++ m.text ++ " (" ++ m.ruleId ++ ")"

/-- The compact format. -/
def compact : Formatter := fun results =>
  .ok (lineByLine compactLine results)

/-- The line of a message in the format that editors read. -/
def unixLine (r : FileResult) (m : Message) : String :=
  r.filePath ++ ":" ++ toString m.line ++ ":" ++ toString m.column ++ ": " ++ m.text ++ " ["
    ++ m.severity.name ++ "/" ++ m.ruleId ++ "]"

/-- The format that editors read. -/
def unix : Formatter := fun results =>
  .ok (lineByLine unixLine results)

/-! ### JSON

The report writes the fields of a result in an order of their own, which starts with what a reader
looks for first. -/

/-- A span, its start first. -/
def spanJson (s : Span) : Json :=
  .object [("start", .ofNat s.start), ("end", .ofNat s.stop)]

/-- A message, the rule first. -/
def messageJson (m : Message) : Json :=
  .object
    [("ruleId", .string m.ruleId), ("message", .string m.text), ("line", .ofNat m.line),
     ("column", .ofNat m.column), ("severity", m.severity.toJson), ("span", spanJson m.span)]

/-- A result, the path first. -/
def resultJson (r : FileResult) : Json :=
  .object
    [("filePath", .string r.filePath), ("messages", .array (r.messages.map messageJson))]

/-- The results as compact JSON. -/
def json : Formatter := fun results =>
  .ok (Json.array (results.map resultJson)).render

/-! ### Names -/

/-- The name of the format that is used unless another one is asked for. -/
def defaultName : String := "stylish"

/-- The built-in formats by name. -/
def builtins : List (String × Formatter) :=
  [("stylish", stylish), ("compact", compact), ("json", json), ("unix", unix)]

end Formatter

end ProseLinter
