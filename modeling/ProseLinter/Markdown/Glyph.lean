import ProseLinter.Document.Span

/-!
# Glyphs and lines

A Markdown text is read line by line and column by column. A glyph is what stands in one column: a
character with its place in the text, or a further column of a tab, which reaches up to the next
column that is a multiple of four. Only the first column of a tab has a text, so that a tab of
which a prefix takes the first columns is lost to what follows.

* `Line.ofText` cuts a text into lines; a line ends with a newline, a carriage return or both.
* `Line.join` gives the running text of lines.
* `Column.distance` is the size by which prefixes are measured.
-/

namespace ProseLinter.Markdown

/-- A character in its column. -/
structure Glyph where
  /-- The character; a blank in the further columns of a tab. -/
  char : Char
  /-- The byte offset at which the glyph starts. -/
  start : Nat
  /-- The byte offset at which the next glyph starts. -/
  stop : Nat
  /-- How many columns of the same tab lie before this one. -/
  fill : Nat
  /-- The character before it in the text. -/
  before : Option Char
  /-- The character after it in the text. -/
  after : Option Char
  /-- After a line end in running text: the prefix of the next line. -/
  skipped : List Char := []
deriving Repr, Inhabited

namespace Glyph

/-- Whether a glyph is a blank or a column of a tab. -/
def isBlank (g : Glyph) : Bool :=
  g.char == ' ' || g.char == '\t'

/-- Whether a glyph ends a line. -/
def isEnding (g : Glyph) : Bool :=
  g.char == '\n' || g.char == '\r'

/-- Whether a glyph is a blank or ends a line. -/
def isSpace (g : Glyph) : Bool :=
  g.isBlank || g.isEnding

/-- The characters of a glyph: a line end may consist of two, and the further columns of a tab have
none. -/
def text (g : Glyph) : List Char :=
  if g.fill != 0 then []
  else if g.char == '\r' && g.stop == g.start + 2 then ['\r', '\n']
  else [g.char]

/-- A column of a tab taken for the tab. -/
def whole (g : Glyph) : Glyph :=
  if g.char == '\t' || g.fill != 0 then { g with stop := g.start + 1 } else g

/-- A further column of a tab as the tab itself. -/
def restored (g : Glyph) : Glyph :=
  if g.fill != 0 then { g.whole with char := '\t', fill := 0 } else g

/-- The number of columns from one tab stop to the next. -/
def tabSize : Nat := 4

/-- The columns of a tab of so many columns at an offset, counted from column `fill` of the tab. -/
def tab (offset : Nat) (before after : Option Char) (fill : Nat) : Nat → List Glyph
  | 0 => []
  | n + 1 =>
    let char := if fill == 0 then '\t' else ' '
    let stop := if n == 0 then offset + 1 else offset
    { char, start := offset, stop, fill, before, after } :: tab offset before after (fill + 1) n

/-- The columns of a character that does not end a line, in the column `column` counted from
zero. -/
def ofChar (c : Char) (offset column : Nat) (before after : Option Char) : List Glyph :=
  if c == '\t' then tab offset before after 0 (tabSize - column % tabSize)
  else [{ char := c, start := offset, stop := offset + c.utf8Size, fill := 0, before, after }]

end Glyph

/-- The characters of glyphs. -/
def glyphText (gs : List Glyph) : List Char :=
  gs.flatMap Glyph.text

/-- The glyphs as characters of the text: a tab is one glyph. A further column of a tab remains as
the first glyph, where it says that the tab began before the text. -/
def wholeGlyphs : List Glyph → List Glyph
  | [] => []
  | g :: gs => g.whole :: (gs.filter (·.fill == 0)).map Glyph.whole

/-- The glyphs after the blanks at the start. -/
def skipBlanks (gs : List Glyph) : List Glyph :=
  gs.dropWhile Glyph.isBlank

/-- The number of blank columns at the start. -/
def indentation (gs : List Glyph) : Nat :=
  (gs.takeWhile Glyph.isBlank).length

/-- The glyphs after at most `n` blank columns. -/
def skipColumns (n : Nat) : List Glyph → List Glyph
  | [] => []
  | g :: gs =>
    match n with
    | 0 => g :: gs
    | n + 1 => if g.isBlank then skipColumns n gs else g :: gs

/-- The characters of the glyphs that satisfy `p` at the start, and the glyphs after them. -/
def spanChars (p : Char → Bool) (gs : List Glyph) : List Glyph × List Glyph :=
  gs.span fun g => p g.char

/-- The glyphs of a text that come before a rest of it. -/
def glyphsBefore (rest gs : List Glyph) : List Glyph :=
  match rest with
  | [] => gs
  | r :: _ => gs.takeWhile (·.start < r.start)

/-- The glyphs after a first one with the given character. -/
def expect? (c : Char) : List Glyph → Option (List Glyph)
  | [] => none
  | g :: gs => if g.char == c then some gs else none

/-- The glyphs after the given characters. -/
def expectAll? (cs : List Char) (gs : List Glyph) : Option (List Glyph) :=
  cs.foldlM (fun rest c => expect? c rest) gs

/-! ### Columns -/

/-- A column of a line. -/
structure Column where
  /-- The byte offset of its character. -/
  offset : Nat
  /-- How many columns of the same tab lie before it. -/
  fill : Nat
deriving DecidableEq, Repr

/-- The size of what lies between two columns: a character counts its bytes, and of a tab that
begins or ends outside only the columns between count. -/
def Column.distance (a b : Column) : Nat :=
  let first := if a.fill == 0 then a.offset else a.offset + 1
  let last := if b.fill == 0 then b.offset else b.offset + 1
  (last - first) + (if a.fill == 0 then 0 else Glyph.tabSize - a.fill) + (b.fill - 1)

/-! ### Lines -/

/-- A line, or what is left of it after a prefix. -/
structure Line where
  glyphs : List Glyph
  /-- The byte offset at which the line stops, before its line end. -/
  stop : Nat
  /-- The line end; the last line of a text may lack it. -/
  ending : Option Glyph
  /-- The prefix that continues the enclosures of the line. -/
  skipped : List Char := []
deriving Repr, Inhabited

namespace Line

/-- The byte offset at which a line starts. -/
def start (l : Line) : Nat :=
  match l.glyphs with
  | g :: _ => g.start
  | [] => l.stop

/-- The byte offset at which the next line starts. -/
def next (l : Line) : Nat :=
  match l.ending with
  | some g => g.stop
  | none => l.stop

/-- The byte offset up to which the text of a line goes, the line end included where the line has
no text. -/
def reach (l : Line) : Nat :=
  if l.glyphs.isEmpty then l.next else l.stop

/-- The column at which the rest of a line after a prefix begins. -/
def columnOf (l : Line) (rest : List Glyph) : Column :=
  match rest with
  | g :: _ => ⟨g.start, g.fill⟩
  | [] => ⟨l.stop, 0⟩

/-- Whether a line holds blanks only. -/
def isBlank (l : Line) : Bool :=
  l.glyphs.all Glyph.isBlank

/-- The line after a prefix that leaves the given glyphs. -/
def after (l : Line) (rest : List Glyph) : Line :=
  { l with glyphs := rest }

/-- The lines of the rest of a text at an offset, inside a line whose glyphs so far are `current`;
`done` holds the lines before. Both are given with the last one first. -/
def linesFrom (done : List Line) (current : List Glyph) (column offset : Nat)
    (before : Option Char) : List Char → List Line
  | [] =>
    (if current.isEmpty then done
      else { glyphs := current.reverse, stop := offset, ending := none } :: done).reverse
  | '\r' :: '\n' :: cs =>
    let next := offset + 2
    let ending : Glyph :=
      { char := '\r', start := offset, stop := next, fill := 0, before, after := cs.head? }
    let line : Line := { glyphs := current.reverse, stop := offset, ending := some ending }
    linesFrom (line :: done) [] 0 next (some '\n') cs
  | c :: cs =>
    let next := offset + c.utf8Size
    if c == '\n' || c == '\r' then
      let ending : Glyph :=
        { char := c, start := offset, stop := next, fill := 0, before, after := cs.head? }
      let line : Line := { glyphs := current.reverse, stop := offset, ending := some ending }
      linesFrom (line :: done) [] 0 next (some c) cs
    else
      let columns := Glyph.ofChar c offset column before cs.head?
      linesFrom done (columns.reverse ++ current) (column + columns.length) next (some c) cs

/-- The lines of a text. A byte order mark at the start is not part of the first line, but its
three bytes count as columns. -/
def ofText : List Char → List Line
  | '\uFEFF' :: cs => linesFrom [] [] 3 3 (some '\uFEFF') cs
  | cs => linesFrom [] [] 0 0 none cs

/-- The running text of several lines: their glyphs and the line ends between them. -/
def join : List Line → List Glyph
  | [] => []
  | [l] => wholeGlyphs l.glyphs
  | l :: m :: ls =>
    wholeGlyphs l.glyphs ++ l.ending.toList.map ({ · with skipped := m.skipped }) ++ join (m :: ls)

end Line

end ProseLinter.Markdown
