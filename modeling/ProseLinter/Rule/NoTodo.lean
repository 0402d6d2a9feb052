import ProseLinter.Rule.Match
import ProseLinter.Text.Blank
import ProseLinter.Text.LowerCase
import ProseLinter.Text.Search

/-!
# Todo markers

The rule finds markers such as `TODO:` in the texts of a document. Of several markers that occur at
one offset the shortest counts, and a marker that contains one of the texts to ignore is passed
over.

* `NoTodo.hits` are the occurrences of markers in a text.
* `NoTodo.rule` is the rule.
-/

namespace ProseLinter.NoTodo

/-- The options of the rule. -/
structure Options where
  patterns : List String := []
  ignorePatterns : List String := []
  caseSensitive : Bool := false

/-- The markers that are looked for unless the options name others. -/
def defaultPatterns : List String :=
  ["TODO:", "TODO ", "FIXME:", "FIXME ", "XXX:", "XXX "]

namespace Options

/-- The reading of the options: all may be absent. -/
def record : Json.Record Options where
  name := "Options"
  fieldNames := ["patterns", "ignore_patterns", "case_sensitive"]
  closed := false
  start := {}
  set name v o :=
    match name with
    | "patterns" => return { o with patterns := ← Json.decodeList Json.decodeString v }
    | "ignore_patterns" =>
      return { o with ignorePatterns := ← Json.decodeList Json.decodeString v }
    | _ => return { o with caseSensitive := ← Json.decodeBool v }

/-- Reads the options. -/
def decode : Json.Decoder Options :=
  record.decode fun _ o => .ok o

/-- The markers that are looked for. -/
def effectivePatterns (o : Options) : List String :=
  if o.patterns.isEmpty then defaultPatterns else o.patterns

/-- The form in which texts and markers are compared. -/
def fold (o : Options) (cs : List Char) : List Char :=
  if o.caseSensitive then cs else Text.asciiUpper cs

/-- Whether a marker as written is passed over. -/
def ignores (o : Options) (matched : List Char) : Bool :=
  o.ignorePatterns.any fun p => Text.contains p.toList matched

end Options

/-- An occurrence of a marker: its byte offset and its length in bytes. -/
abbrev Hit := Nat × Nat

/-- The order of hits: by offset, then by length. -/
def Hit.le (a b : Hit) : Bool :=
  a.1 < b.1 || (a.1 == b.1 && a.2 ≤ b.2)

/-- Of neighbouring hits at one offset only the first is kept. -/
def dedupOffsets : List Hit → List Hit
  | [] => []
  | [a] => [a]
  | a :: b :: rest =>
    if a.1 == b.1 then dedupOffsets (a :: rest) else a :: dedupOffsets (b :: rest)
termination_by hits => hits.length

/-- All occurrences of all markers in a text. -/
def allHits (o : Options) (text : List Char) : List Hit :=
  let haystack := o.fold text
  o.effectivePatterns.flatMap fun pattern =>
    let needle := o.fold pattern.toList
    (Text.occurrences needle haystack).map fun start => (start, Text.byteLength needle)

/-- The occurrences of markers in a text in order, the shortest one at each offset. -/
def hits (o : Options) (text : List Char) : List Hit :=
  dedupOffsets ((allHits o text).mergeSort Hit.le)

/-- The text of the message for a marker as written. -/
def messageText (matched : List Char) : String :=
  "Found '" ++ String.ofList (Text.trim matched)
    ++ "' comment. Consider resolving this before committing."

/-- The match for a marker at an offset, as written, unless it is passed over. -/
def match? (o : Options) (start : Nat) (matched : List Char) : Option Match :=
  if o.ignores matched then none else some ⟨start, matched, messageText matched, .warning⟩

/-- The matches in a text. -/
def search (o : Options) (text : List Char) : List Match :=
  (hits o text).filterMap fun (start, length) =>
    match? o start ((Text.slice? text start (start + length)).getD [])

/-- The findings in a document. -/
def check (c : Rule.Context) : Except RuleError (List Finding) := do
  let o ← c.readOptions {} Options.decode
  return c.scan .str (search o)

/-- The rule against todo markers. -/
def rule : Rule where
  tag := none
  description := "Disallow TODO/FIXME markers in text"
  check c := .ofExcept (check c)

end ProseLinter.NoTodo
