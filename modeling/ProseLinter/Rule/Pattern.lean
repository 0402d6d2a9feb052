import ProseLinter.Rule.Match
import ProseLinter.Text.LowerCase
import ProseLinter.Text.Search

/-!
# Pattern rules

A pattern rule is data: a list of literal texts that are looked for in nodes of given types, each
with its message and severity. Unless the rule says otherwise, ASCII letters match in any case.

* `PatternModule.decode` reads the written form of such a rule.
* `PatternRule.ofModule` checks it and fills in what each pattern leaves out.
* `PatternRule.check` reports the occurrences in order of offset, then of pattern.
-/

namespace ProseLinter

/-- A pattern as written. -/
structure PatternEntry where
  pattern : String
  text : Option String
  severity : Option Severity

/-- The written form of a pattern rule. -/
structure PatternModule where
  description : Option String
  nodeTypes : List NodeType
  patterns : List PatternEntry
  caseSensitive : Bool
  text : Option String
  severity : Option Severity

namespace PatternEntry

/-- A pattern whose fields are read one by one. -/
structure Draft where
  pattern : Option String := none
  text : Option String := none
  severity : Option Severity := none

/-- The reading of a pattern with a message or severity of its own. -/
def record : Json.Record Draft where
  name := "PatternEntry"
  fieldNames := ["pattern", "message", "severity"]
  closed := false
  start := {}
  set name v d :=
    match name with
    | "pattern" => return { d with pattern := some (← Json.decodeString v) }
    | "message" => return { d with text := ← Json.decodeOption Json.decodeString v }
    | _ => return { d with severity := ← Json.decodeOption Severity.decode v }

/-- Reads a pattern: a string, or an object with a message or severity of its own. -/
def decode : Json.Decoder PatternEntry
  | .string s => .ok ⟨s, none, none⟩
  | .object fields =>
    match record.ofFields fields with
    | .ok ⟨some pattern, text, severity⟩ => .ok ⟨pattern, text, severity⟩
    | _ => .error (.noAlternative "PatternEntry")
  | _ => .error (.noAlternative "PatternEntry")

end PatternEntry

namespace PatternModule

/-- A pattern rule whose fields are read one by one. -/
structure Draft where
  description : Option String := none
  nodeTypes : List NodeType := [.str]
  patterns : Option (List PatternEntry) := none
  caseSensitive : Bool := false
  text : Option String := none
  severity : Option Severity := none

/-- Reads the name of a node type. -/
def decodeNodeType : Json.Decoder NodeType :=
  Json.decodeVariant (NodeType.all.map fun t => (t.name, t))

/-- The reading of a pattern rule: only the patterns are required. -/
def record : Json.Record Draft where
  name := "PatternRuleModule"
  fieldNames :=
    ["description", "node_types", "patterns", "case_sensitive", "message", "severity"]
  closed := true
  start := {}
  set name v d :=
    match name with
    | "description" => return { d with description := ← Json.decodeOption Json.decodeString v }
    | "node_types" => return { d with nodeTypes := ← Json.decodeList decodeNodeType v }
    | "patterns" => return { d with patterns := some (← Json.decodeList PatternEntry.decode v) }
    | "case_sensitive" => return { d with caseSensitive := ← Json.decodeBool v }
    | "message" => return { d with text := ← Json.decodeOption Json.decodeString v }
    | _ => return { d with severity := ← Json.decodeOption Severity.decode v }

/-- Reads a pattern rule. -/
def decode : Json.Decoder PatternModule :=
  record.decode fun shape d => do
    let some patterns := d.patterns | record.absent shape "patterns"
    return { description := d.description, nodeTypes := d.nodeTypes, patterns
             caseSensitive := d.caseSensitive, text := d.text, severity := d.severity }

end PatternModule

/-- A pattern that is looked for, with its message and severity. -/
structure Pattern where
  needle : List Char
  text : String
  severity : Severity

/-- A pattern rule ready for use. -/
structure PatternRule where
  description : String
  nodeTypes : List NodeType
  caseSensitive : Bool
  patterns : List Pattern

namespace PatternRule

/-- The message of a pattern for which nothing else is said. -/
def defaultText : String :=
  "Found \"\x7bmatch\x7d\""

/-- The pattern of an entry, in the form in which it is compared. -/
def patternOf (m : PatternModule) (e : PatternEntry) : Except PatternFault Pattern :=
  if e.pattern == "" then .error .emptyPattern
  else
    let needle := e.pattern.toList
    .ok
      { needle := if m.caseSensitive then needle else Text.asciiLower needle
        text := e.text.getD (m.text.getD defaultText)
        severity := e.severity.getD (m.severity.getD .error) }

/-- The rule that a module describes. -/
def ofModule (m : PatternModule) : Except PatternFault PatternRule := do
  if m.patterns.isEmpty then throw .noPatterns
  if m.nodeTypes.isEmpty then throw .noNodeTypes
  let patterns ← m.patterns.mapM (patternOf m)
  return { description := m.description.getD "", nodeTypes := m.nodeTypes
           caseSensitive := m.caseSensitive, patterns }

/-- The form in which texts are compared. -/
def fold (r : PatternRule) (cs : List Char) : List Char :=
  if r.caseSensitive then cs else Text.asciiLower cs

/-- An occurrence: its byte offset and the index of its pattern, with the pattern. -/
structure Hit where
  start : Nat
  index : Nat
  pattern : Pattern

/-- The order of hits: by offset, then by pattern. -/
def Hit.le (a b : Hit) : Bool :=
  a.start < b.start || (a.start == b.start && a.index ≤ b.index)

/-- The occurrences of all patterns in a text, in order. -/
def hits (r : PatternRule) (text : List Char) : List Hit :=
  let haystack := r.fold text
  (r.patterns.zipIdx.flatMap fun (pattern, index) =>
    (Text.occurrences pattern.needle haystack).map fun start => ⟨start, index, pattern⟩).mergeSort
    Hit.le

/-- A message in which the place for the match is filled. -/
def fillMatch (text : String) (matched : List Char) : String :=
  String.ofList (Text.replaceAll "\x7bmatch\x7d".toList matched text.toList)

/-- The match for an occurrence, with its characters as written. -/
def Hit.toMatch (h : Hit) (matched : List Char) : Match :=
  ⟨h.start, matched, fillMatch h.pattern.text matched, h.pattern.severity⟩

/-- The byte offset at which an occurrence stops. -/
def Hit.stop (h : Hit) : Nat :=
  h.start + Text.byteLength h.pattern.needle

/-- The matches in a text. -/
def search (r : PatternRule) (text : List Char) : List Match :=
  (r.hits text).map fun h => h.toMatch ((Text.slice? text h.start h.stop).getD [])

/-- The findings in a document: for each node type of the rule in turn, those in its nodes. -/
def check (r : PatternRule) (c : Rule.Context) : List Finding :=
  r.nodeTypes.flatMap fun type => c.scan type r.search

/-- The rule as others see it. -/
def toRule (r : PatternRule) : Rule where
  tag := none
  description := r.description
  check c := ⟨r.check c, none⟩

end PatternRule

end ProseLinter
