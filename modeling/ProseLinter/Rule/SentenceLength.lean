import ProseLinter.Rule.Match
import ProseLinter.Text.Blank
import ProseLinter.Text.Piece

/-!
# Long sentences

The rule limits the number of characters of a sentence. A sentence ends after a terminator or at
the end of its paragraph, and does not count the blanks around it.

* `SentenceLength.sentences` are the sentences of a text.
* `SentenceLength.rule` is the rule.
-/

namespace ProseLinter.SentenceLength

/-- The characters that end a sentence. -/
def isTerminator (c : Char) : Bool :=
  c == '.' || c == '!' || c == '?' || c == '。' || c == '！' || c == '？'

/-- A piece of text without the blanks around it, unless it holds nothing else. -/
def trimPiece? (p : Text.Piece) : Option Text.Piece :=
  let body := Text.trimStart p.chars
  let lead := Text.byteLength p.chars - Text.byteLength body
  let chars := Text.trimEnd body
  if chars.isEmpty then none else some ⟨p.start + lead, chars⟩

/-- The sentences of a text with their byte offsets. -/
def sentences (text : List Char) : List Text.Piece :=
  (Text.pieces isTerminator text).filterMap trimPiece?

/-- The options of the rule. -/
structure Options where
  max : Nat := 100

/-- The reading of the options: the limit may be absent. -/
def Options.record : Json.Record Options where
  name := "Options"
  fieldNames := ["max"]
  closed := false
  start := {}
  set _ v _ := return { max := ← Json.decodeNat 64 "usize" v }

/-- Reads the options. -/
def Options.decode : Json.Decoder Options :=
  Options.record.decode fun _ o => .ok o

/-- The text of the message for a sentence of so many characters. -/
def messageText (max length : Nat) : String :=
  "Line exceeds the maximum sentence length of " ++ toString max ++ " (" ++ toString length
    ++ " characters)."

/-- The match for a sentence that is too long. -/
def match? (max : Nat) (sentence : Text.Piece) : Option Match :=
  let length := sentence.chars.length
  if max < length then
    some ⟨sentence.start, sentence.chars, messageText max length, .error⟩
  else none

/-- The matches in a text. -/
def search (max : Nat) (text : List Char) : List Match :=
  (sentences text).filterMap (match? max)

/-- The findings in a document. -/
def check (c : Rule.Context) : Except RuleError (List Finding) := do
  let o ← c.readOptions {} Options.decode
  if o.max == 0 then throw (.invalidOptions c.ruleId "`max` must be greater than zero")
  return c.scan .paragraph (search o.max)

/-- The rule against long sentences. -/
def rule : Rule where
  tag := none
  description := "Limit the length of each sentence"
  check c := .ofExcept (check c)

end ProseLinter.SentenceLength
