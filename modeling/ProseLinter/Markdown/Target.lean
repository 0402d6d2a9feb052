import ProseLinter.Markdown.Inline
import ProseLinter.Text.UpperCase

/-!
# Targets, titles and labels

The parts that links, images and definitions are made of. A target is written between angle
brackets or as a run without blanks in which parentheses are balanced; a title stands between
quotation marks or in parentheses; a label stands in brackets.

* `resource?` reads a target with a title in parentheses.
* `identifier` makes labels equal that differ in blanks and in the case of letters only.
-/

namespace ProseLinter.Markdown

/-- The glyphs after blanks with at most one line end among them. -/
def skipLine (gs : List Glyph) : List Glyph :=
  match skipBlanks gs with
  | [] => []
  | g :: gs => if g.isEnding then skipBlanks gs else g :: gs

/-- Whether glyphs begin with a blank or a line end. -/
def startsWithSpace : List Glyph → Bool
  | [] => false
  | g :: _ => g.isSpace

/-- Reads up to the first glyph that ends the text and is not escaped, and gives the glyphs before
it and those after it. `ends` and `bad` tell which glyphs end the text and which it must not hold;
`escapable` which ones a backslash protects. -/
def readUntil? (ends bad escapable : Char → Bool) :
    List Glyph → Option (List Glyph × List Glyph)
  | [] => none
  | g :: gs =>
    if ends g.char then some ([], gs)
    else if bad g.char then none
    else if g.char == '\\' then
      match gs with
      | h :: hs =>
        if escapable h.char then
          (readUntil? ends bad escapable hs).map fun (text, rest) => (g :: h :: text, rest)
        else (readUntil? ends bad escapable (h :: hs)).map fun (text, rest) => (g :: text, rest)
      | [] => none
    else (readUntil? ends bad escapable gs).map fun (text, rest) => (g :: text, rest)

/-! ### Targets -/

/-- Whether a character is a control character of ASCII. -/
def isControl (c : Char) : Bool :=
  (0 < c.toNat && c.toNat < 0x20) || c.toNat == 0x7F

/-- Reads a target that is not enclosed. `depth` parentheses are open, of which there may be at
most `limit`. -/
def bareTarget? (limit : Nat) (depth : Nat) : List Glyph → Option (List Glyph × List Glyph)
  | [] => if depth == 0 then some ([], []) else none
  | g :: gs =>
    let more (depth : Nat) :=
      (bareTarget? limit depth gs).map fun (text, rest) => (g :: text, rest)
    if depth == 0 && (g.isSpace || g.char == ')') then some ([], g :: gs)
    else if g.char == '(' then if depth < limit then more (depth + 1) else none
    else if g.char == ')' then more (depth - 1)
    else if isControl g.char || g.char == ' ' then none
    else if g.char == '\\' then
      match gs with
      | h :: hs =>
        if h.char == '(' || h.char == ')' || h.char == '\\' then
          (bareTarget? limit depth hs).map fun (text, rest) => (g :: h :: text, rest)
        else more depth
      | [] => more depth
    else more depth

/-- Reads a target whose parentheses nest at most `limit` deep. -/
def target? (limit : Nat) (gs : List Glyph) : Option (List Glyph × List Glyph) :=
  match gs with
  | [] => none
  | g :: rest =>
    if g.char == '<' then
      readUntil? (· == '>') (fun c => c == '\n' || c == '\r' || c == '<')
        (fun c => c == '<' || c == '>' || c == '\\') rest
    else if isControl g.char || g.char == ' ' || g.char == ')' then none
    else bareTarget? limit 0 gs

/-! ### Titles -/

/-- The mark that ends a title begun with the given one. -/
def titleEnd? (c : Char) : Option Char :=
  if c == '"' || c == '\'' then some c else if c == '(' then some ')' else none

/-- Reads a title; an empty one counts as none. -/
def title? : List Glyph → Option (Option String × List Glyph)
  | [] => none
  | g :: gs => do
    let stop ← titleEnd? g.char
    let (text, rest) ← readUntil? (· == stop) (fun _ => false)
      (fun c => c == stop || c == '\\') gs
    some (if text.isEmpty then none else some (attributeValue text), rest)

/-- How deep the parentheses of the target of a resource may nest. -/
def resourceDepth : Nat := 32

/-- Reads what follows the opening parenthesis of a resource: its target, its title and what
comes after the closing parenthesis. -/
def resource? (gs : List Glyph) : Option (String × Option String × List Glyph) :=
  let gs := skipLine gs
  match expect? ')' gs with
  | some rest => some ("", none, rest)
  | none => do
    let (url, rest) ← target? resourceDepth gs
    let url := attributeValue url
    match expect? ')' (skipLine rest) with
    | some rest => some (url, none, rest)
    | none =>
      if startsWithSpace rest then
        let (title, rest) ← title? (skipLine rest)
        let rest ← expect? ')' (skipLine rest)
        some (url, title, rest)
      else none

/-! ### Labels -/

/-- The greatest number of bytes of a label. -/
def labelSize : Nat := 999

/-- The bytes of a label. Line ends and the blanks after them do not count; `atStart` says whether
blanks here follow a line end. -/
def labelBytesFrom (atStart : Bool) : List Glyph → Nat
  | [] => 0
  | g :: gs =>
    if g.isEnding then labelBytesFrom true gs
    else if atStart && g.isBlank then labelBytesFrom true gs
    else g.char.utf8Size + labelBytesFrom false gs

/-- The number of bytes of a label. -/
def labelBytes (label : List Glyph) : Nat :=
  labelBytesFrom false label

/-- Reads a label after its opening bracket: it holds more than blanks and no bracket that is not
escaped. -/
def label? (gs : List Glyph) : Option (List Glyph × List Glyph) := do
  let (text, rest) ← readUntil? (· == ']') (· == '[')
    (fun c => c == '[' || c == '\\' || c == ']') gs
  if text.all Glyph.isSpace || labelSize < labelBytes text then none else some (text, rest)

/-- The characters that tell labels apart: those of the text, prefixes of its lines included. -/
def labelChars (label : List Glyph) : List Char :=
  label.flatMap fun g => g.char :: g.skipped

/-- The words of a text, as parts without blanks; `word` is the part so far, the last character
first. -/
def wordsFrom (word : List Char) : List Char → List (List Char)
  | [] => if word.isEmpty then [] else [word.reverse]
  | c :: cs =>
    if c == ' ' || c == '\t' || c == '\n' || c == '\r' then
      if word.isEmpty then wordsFrom [] cs else word.reverse :: wordsFrom [] cs
    else wordsFrom (c :: word) cs

/-- The identifier of a label: its words with single blanks between them, without the difference
between capitals and small letters. -/
def identifier (label : List Glyph) : List Char :=
  Text.caseFold (List.intercalate [' '] (wordsFrom [] (labelChars label)))

/-- The identifiers that a text defines: targets of links and images, and footnotes. -/
structure References where
  targets : List (List Char)
  footnotes : List (List Char)
deriving Repr

namespace References

/-- No identifiers. -/
def empty : References := ⟨[], []⟩

/-- Whether a target is defined. -/
def hasTarget (r : References) (id : List Char) : Bool :=
  r.targets.contains id

/-- Whether a footnote is defined. -/
def hasFootnote (r : References) (id : List Char) : Bool :=
  r.footnotes.contains id

end References

end ProseLinter.Markdown
