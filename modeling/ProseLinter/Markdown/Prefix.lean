import ProseLinter.Markdown.LineBlock

/-!
# Prefixes of enclosures

A line opens an enclosure with a prefix, and continues it with another one.

* `opening?` reads the prefix that opens an enclosure.
* `Enclosure.continued?` reads the one that continues it.
-/

namespace ProseLinter.Markdown

/-- The rest of a line after the prefix of a block quote. -/
def openingQuote? (gs : List Glyph) : Option (List Glyph) :=
  (expect? '>' (skipColumns maxIndentation gs)).map (skipColumns 1)

/-- The greatest number of digits in the number of an item. -/
def itemDigits : Nat := 9

/-- The final mark of the prefix of a list item, and the rest after it. A numbered item that
interrupts a paragraph has the number one. -/
def itemMarker? (interrupts : Bool) (gs : List Glyph) : Option (Char × List Glyph) :=
  match gs with
  | [] => none
  | g :: rest =>
    if g.char == '*' || g.char == '-' || g.char == '+' then
      if isThematicBreak gs then none else some (g.char, rest)
    else
      let (digits, rest) := spanChars Char.isDigit gs
      match rest with
      | [] => none
      | h :: rest =>
        let isNumber := !digits.isEmpty && digits.length ≤ itemDigits
          && (!interrupts || digits.map (·.char) == ['1'])
        if isNumber && (h.char == '.' || h.char == ')') then some (h.char, rest) else none

/-- Reads the prefix of a list item, which one to four blanks end; of more blanks only one belongs
to it. The further lines of the item are indented by the size of its prefix. An item without text
counts the line end as a blank, of which one that consists of two characters right after the mark
counts as two; such an item does not interrupt a paragraph. -/
def openingItem? (interrupts : Bool) (l : Line) : Option (Enclosure × List Glyph) := do
  let (marker, rest) ← itemMarker? interrupts (skipColumns maxIndentation l.glyphs)
  let width (rest : List Glyph) : Nat := (l.columnOf l.glyphs).distance (l.columnOf rest)
  if rest.all Glyph.isBlank then
    if interrupts then none
    else
      let ending := if rest.isEmpty && l.next == l.stop + 2 then 2 else 1
      some (.listItem marker (width rest + ending) true, rest)
  else
    let blanks := indentation rest
    if blanks == 0 then none
    else
      let rest := skipColumns (if blanks ≤ Glyph.tabSize then blanks else 1) rest
      some (.listItem marker (width rest) false, rest)

/-- Reads the prefix of a footnote: its label after a caret, in brackets, and a colon. -/
def openingFootnote? (gs : List Glyph) : Option (Enclosure × List Glyph) := do
  let rest ← expectAll? ['[', '^'] (skipColumns maxIndentation gs)
  let (label, rest) ← readUntil? (· == ']') (fun c => c == '[' || c == ' ' || c == '\t')
    (fun c => c == '[' || c == '\\' || c == ']') rest
  let rest ← expect? ':' rest
  if label.isEmpty || labelSize < labelBytes label then none
  else some (.footnote (Markdown.identifier label), skipBlanks rest)

/-- The enclosure that a line opens, and the rest after its prefix. -/
def opening? (interrupts : Bool) (l : Line) : Option (Enclosure × List Glyph) :=
  match openingQuote? l.glyphs with
  | some rest => some (.blockQuote, rest)
  | none => (openingItem? interrupts l).or (openingFootnote? l.glyphs)

/-- The rest of a line that has at least `n` columns of indentation, without these. -/
def indented? (n : Nat) (gs : List Glyph) : Option (List Glyph) :=
  if n ≤ indentation gs then some (skipColumns n gs) else none

/-- The rest of a line that continues an enclosure. A blank line continues an item, unless the item
has been blank so far. -/
def Enclosure.continued? (gs : List Glyph) : Enclosure → Option (Enclosure × List Glyph)
  | blockQuote => (openingQuote? gs).map fun rest => (blockQuote, rest)
  | listItem marker width isBlank =>
    if gs.all Glyph.isBlank then
      if isBlank then none else some (listItem marker width false, skipColumns width gs)
    else (indented? width gs).map fun rest => (listItem marker width false, rest)
  | footnote id =>
    if gs.all Glyph.isBlank then some (footnote id, skipColumns codeIndentation gs)
    else (indented? codeIndentation gs).map fun rest => (footnote id, rest)

end ProseLinter.Markdown
