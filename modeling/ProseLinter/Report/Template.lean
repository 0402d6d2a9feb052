import ProseLinter.Loading.Module
import ProseLinter.Report.Formatter

/-!
# Template formats

A template format is a module with four texts in which names in braces are places to be filled: one
written once at the start, one for each file, one for each message, and one at the end. A name that
is not known stays as it is, braces included, and what is filled in is not looked at again.

* `Template.segments` cuts a template into literal parts and places.
* `Template.fill` fills the places.
-/

namespace ProseLinter

/-- A template format. -/
structure Template where
  header : String := ""
  file : String := ""
  message : String := ""
  summary : String := ""
  /-- Whether files without messages are written too. -/
  includeClean : Bool := false

namespace Template

/-- The reading of a template format: any field may be absent. -/
def record : Json.Record Template where
  name := "TemplateFormatter"
  fieldNames := ["header", "file", "message", "summary", "includeClean"]
  closed := true
  start := {}
  set name v t :=
    match name with
    | "header" => return { t with header := ← Json.decodeString v }
    | "file" => return { t with file := ← Json.decodeString v }
    | "message" => return { t with message := ← Json.decodeString v }
    | "summary" => return { t with summary := ← Json.decodeString v }
    | _ => return { t with includeClean := ← Json.decodeBool v }

/-- Reads a template format. -/
def decode : Json.Decoder Template :=
  record.decode fun _ t => .ok t

/-- The template format of a module file. -/
def load (files : FileTree) (path : Path) : Except RuleError Template :=
  Modules.readAs files path decode

/-! ### Filling places -/

/-- A part of a template: text that stands for itself, or a place with its name. -/
inductive Segment where
  | literal (text : List Char)
  | place (name : List Char)
deriving DecidableEq, Repr

/-- The parts of a template. An opening brace begins a place that ends at the next closing brace;
without one it stands for itself, as does all after it. -/
def segments (template : List Char) : List Segment :=
  let before := template.takeWhile (· != '\x7b')
  match _h : template.dropWhile (· != '\x7b') with
  | [] => [.literal before]
  | brace :: after =>
    let name := after.takeWhile (· != '\x7d')
    match _h' : after.dropWhile (· != '\x7d') with
    | [] => [.literal before, .literal (brace :: after)]
    | _ :: rest => .literal before :: .place name :: segments rest
termination_by template.length
decreasing_by
  have h1 : (template.dropWhile (· != '\x7b')).length ≤ template.length :=
    (List.dropWhile_suffix _).length_le
  have h2 : (after.dropWhile (· != '\x7d')).length ≤ after.length :=
    (List.dropWhile_suffix _).length_le
  rw [_h] at h1
  rw [_h'] at h2
  simp only [List.length_cons] at h1 h2
  omega

/-- The text of a part, given what the places are filled with. -/
def Segment.fill (lookup : String → Option String) : Segment → List Char
  | .literal text => text
  | .place name =>
    match lookup (String.ofList name) with
    | some value => value.toList
    | none => '\x7b' :: name ++ ['\x7d']

/-- The template with its places filled. -/
def fill (template : String) (lookup : String → Option String) : String :=
  String.ofList ((segments template.toList).flatMap (·.fill lookup))

/-- What the places of the text for a file are filled with. -/
def fileField (r : FileResult) (key : String) : Option String :=
  match key with
  | "filePath" => some r.filePath
  | _ => none

/-- What the places of the text for a message are filled with. -/
def messageField (r : FileResult) (m : Message) (key : String) : Option String :=
  match key with
  | "line" => some (toString m.line)
  | "column" => some (toString m.column)
  | "severity" => some m.severity.name
  | "message" => some m.text
  | "ruleId" => some m.ruleId
  | key => fileField r key

/-- What the places of the last text are filled with. -/
def summaryField (s : Summary) (key : String) : Option String :=
  match key with
  | "total" => some (toString s.problems)
  | "errors" => some (toString s.errors)
  | "warnings" => some (toString s.warnings)
  | _ => none

/-- The text for a file and its messages. -/
def fileText (t : Template) (r : FileResult) : String :=
  fill t.file (fileField r)
    ++ String.join (r.messages.map fun m => fill t.message (messageField r m))

/-- The text at the start, those for the files, and the text at the end. -/
def report (t : Template) (results : List FileResult) : String :=
  fill t.header (fun _ => none)
    ++ String.join
      ((results.filter fun r => !r.messages.isEmpty || t.includeClean).map t.fileText)
    ++ fill t.summary (summaryField (Summary.ofResults results))

/-- The report in a template format. -/
def format (t : Template) : Formatter := fun results =>
  .ok (t.report results)

end Template

end ProseLinter
