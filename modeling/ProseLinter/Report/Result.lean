import ProseLinter.Rule.Message

/-!
# Results

The result of linting one file or text is the list of its messages. A summary counts the messages
of many results.

* `Summary.ofResults` counts all messages, errors and warnings.
* `FileResult.toJson` and `FileResult.decode` are the JSON form of a result.
-/

namespace ProseLinter

/-- The messages for one file or text. -/
structure FileResult where
  filePath : String
  messages : List Message
deriving DecidableEq, Repr

namespace FileResult

/-- The path that stands for a text without a file. -/
def textPath : String := "<text>"

/-- The rule that stands for a failure of linting itself. -/
def fatalId : String := "<fatal>"

/-- The message for a failure. -/
def fatalMessage (text : String) : Message :=
  { ruleId := fatalId, text, line := 1, column := 1, severity := .error, span := ⟨0, 0⟩ }

/-- The result for a file that could not be linted. -/
def fatal (filePath text : String) : FileResult :=
  ⟨filePath, [fatalMessage text]⟩

/-- Whether the result is for a text without a file. -/
def isText (r : FileResult) : Bool :=
  r.filePath == textPath

/-- Whether a message is an error. -/
def hasErrors (r : FileResult) : Bool :=
  r.messages.any (·.isError)

/-- The number of messages of a severity. -/
def count (r : FileResult) (severity : Severity) : Nat :=
  r.messages.countP (·.severity == severity)

/-- The JSON form of a result. -/
def toJson (r : FileResult) : Json :=
  Json.ofFields
    [("filePath", .string r.filePath), ("messages", .array (r.messages.map (·.toJson)))]

/-- The reading of a result: both fields are required. -/
def record : Json.Record (Option String × Option (List Message)) where
  name := "FileResult"
  fieldNames := ["filePath", "messages"]
  closed := false
  start := (none, none)
  set name v acc :=
    match name with
    | "filePath" => return (some (← Json.decodeString v), acc.2)
    | _ => return (acc.1, some (← Json.decodeList Message.decode v))

/-- Reads a result. -/
def decode : Json.Decoder FileResult :=
  record.decode fun shape (filePath?, messages?) => do
    let some filePath := filePath? | record.absent shape "filePath"
    let some messages := messages? | record.absent shape "messages"
    return ⟨filePath, messages⟩

end FileResult

/-- The numbers of all messages, of errors and of warnings. -/
structure Summary where
  problems : Nat
  errors : Nat
  warnings : Nat
deriving DecidableEq, Repr

/-- The summary of results. -/
def Summary.ofResults (results : List FileResult) : Summary :=
  results.foldl (fun s r =>
    ⟨s.problems + r.messages.length, s.errors + r.count .error, s.warnings + r.count .warning⟩)
    ⟨0, 0, 0⟩

/-- Whether any message is an error. -/
def hasErrorResults (results : List FileResult) : Bool :=
  results.any (·.hasErrors)

end ProseLinter
