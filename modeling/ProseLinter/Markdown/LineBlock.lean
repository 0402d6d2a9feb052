import ProseLinter.Markdown.Block

/-!
# Blocks of one line

Some lines are a block by themselves, underline the text before them, or open fenced code.

* `thematicBreak?`, `heading?` and `underlineDepth?` read such lines.
* `fence?` reads the line that opens fenced code, and `Fence.isClosedBy` finds the one that closes
  it.
* Each of them has a weaker form that says whether the line might still become one if it went on.
-/

namespace ProseLinter.Markdown

/-! ### Thematic breaks -/

/-- Whether glyphs without indentation are equal marks of a thematic break with any blanks
between. -/
def isBreakMarks (gs : List Glyph) : Bool :=
  match gs with
  | [] => false
  | g :: _ =>
    (g.char == '*' || g.char == '-' || g.char == '_')
      && gs.all fun h => h.char == g.char || h.isBlank

/-- Whether glyphs without indentation are a thematic break: at least three equal marks. -/
def isThematicBreak (gs : List Glyph) : Bool :=
  isBreakMarks gs && 3 ≤ (gs.filter fun g => !g.isBlank).length

/-- The thematic break that a line is. -/
def thematicBreak? (l : Line) : Option Block :=
  if isThematicBreak (skipColumns maxIndentation l.glyphs) then
    some (.thematicBreak ⟨l.start, l.stop⟩)
  else none

/-! ### Headings -/

/-- The text of a heading: all from the first to the last character that is no blank and does not
belong to a number sign at the start of a word. `kept` holds the text so far and `pending` what
follows it, both with the last glyph first; `inWord` is true inside a word of the text. -/
def headingText (inWord : Bool) (kept pending : List Glyph) : List Glyph → List Glyph
  | [] => kept.reverse
  | g :: gs =>
    if g.isBlank || (g.char == '#' && !inWord) then
      headingText false kept (if kept.isEmpty then [] else g :: pending) gs
    else headingText true (g :: (pending ++ kept)) [] gs

/-- The heading that a line is. -/
def heading? (l : Line) : Option Block :=
  let (marks, rest) := spanChars (· == '#') (skipColumns maxIndentation l.glyphs)
  let isEnded := match rest with
    | [] => true
    | g :: _ => g.isBlank
  if marks.isEmpty || 6 < marks.length || !isEnded then none
  else some (.heading marks.length ⟨l.start, l.stop⟩ (wholeGlyphs (headingText false [] [] rest)))

/-- The depth of the heading that a line underlines. -/
def underlineDepth? (l : Line) : Option Nat :=
  match skipColumns maxIndentation l.glyphs with
  | [] => none
  | g :: gs =>
    if (g.char == '=' || g.char == '-')
        && (gs.dropWhile (·.char == g.char)).all Glyph.isBlank then
      some (if g.char == '=' then 1 else 2)
    else none

/-! ### Fenced code -/

/-- The line that opens fenced code. -/
structure Fence where
  marker : Char
  size : Nat
  /-- How many columns of indentation are removed from the lines of the code. -/
  indent : Nat
  start : Nat
  language : Option String
deriving Repr

namespace Fence

/-- Whether a character is the mark of a fence. -/
def isMarker (c : Char) : Bool :=
  c == '\x60' || c == '~'

/-- The least number of marks in a fence. -/
def minSize : Nat := 3

/-- Whether what follows the marks of a fence may stand there: after backticks no further backtick
may follow. -/
def allows (marker : Char) (rest : List Glyph) : Bool :=
  marker != '\x60' || !rest.any (·.char == '\x60')

/-- Whether a line closes fenced code. -/
def isClosedBy (f : Fence) (l : Line) : Bool :=
  let (marks, rest) := spanChars (· == f.marker) (skipColumns maxIndentation l.glyphs)
  f.size ≤ marks.length && rest.all Glyph.isBlank

end Fence

/-- The fence that a line opens. -/
def fence? (l : Line) : Option Fence :=
  let gs := skipColumns maxIndentation l.glyphs
  match gs with
  | [] => none
  | g :: _ =>
    let (marks, rest) := spanChars (· == g.char) gs
    if Fence.isMarker g.char && Fence.minSize ≤ marks.length && Fence.allows g.char rest then
      let info := (skipBlanks rest).takeWhile (fun h => !h.isBlank)
      some {
        marker := g.char
        size := marks.length
        indent := (l.columnOf l.glyphs).distance (l.columnOf gs)
        start := g.start
        language := if info.isEmpty then none else some (attributeValue info) }
    else none

/-- Whether a line is the start of a fence, possibly with fewer marks than that needs. -/
def mayOpenFence (l : Line) : Bool :=
  match skipColumns maxIndentation l.glyphs with
  | [] => false
  | g :: gs =>
    let (marks, rest) := spanChars (· == g.char) (g :: gs)
    Fence.isMarker g.char
      && if marks.length < Fence.minSize then rest.isEmpty else Fence.allows g.char rest

end ProseLinter.Markdown
