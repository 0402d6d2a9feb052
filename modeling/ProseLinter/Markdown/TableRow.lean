import ProseLinter.Markdown.Block

/-!
# Rows of tables

A row is a line cut at its vertical bars; a bar after a backslash does not count. A bar at the
start of the line and one at its end are optional. The second line of a table consists of dashes
and colons and has as many cells as the first one.

* `Row.ofLine` gives the cells of a line: each reaches from its bar up to the next one.
* `headCells?` and `delimiterCells?` count the cells of a line as the first and as the second one
  of a table.
-/

namespace ProseLinter.Markdown

/-- The parts of a line between its bars, with the offset of the bar before each; `start` and
`current` belong to the part being read, whose last glyph comes first. -/
def barParts (start : Nat) (current : List Glyph) : List Glyph → List (Nat × List Glyph)
  | [] => [(start, current.reverse)]
  | g :: gs =>
    if g.char == '|' then (start, current.reverse) :: barParts g.start [] gs
    else if g.char == '\\' then
      match gs with
      | [] => barParts start (g :: current) []
      | h :: hs =>
        if h.char == '\\' || h.char == '|' then barParts start (h :: g :: current) hs
        else barParts start (g :: current) (h :: hs)
    else barParts start (g :: current) gs

/-- The parts of a line that are cells: a blank first part joins the one after it, and a blank last
part the one before it. -/
def cellParts (l : Line) : List (Nat × List Glyph) :=
  let isBlank (part : Nat × List Glyph) := part.2.all Glyph.isBlank
  let parts := match barParts l.start [] l.glyphs with
    | first :: second :: rest =>
      if isBlank first then (first.1, second.2) :: rest else first :: second :: rest
    | parts => parts
  match parts, parts.getLast? with
  | _ :: _ :: _, some last => if isBlank last then parts.dropLast else parts
  | _, _ => parts

/-- Glyphs without the blanks at both ends. -/
def trimBlanks (gs : List Glyph) : List Glyph :=
  ((skipBlanks gs).reverse.dropWhile Glyph.isBlank).reverse

/-- The cells of parts, the last of which stops at `stop`. -/
def cellsOf (stop : Nat) : List (Nat × List Glyph) → List Cell
  | [] => []
  | (start, gs) :: rest =>
    let stopAt := match rest with
      | (next, _) :: _ => next
      | [] => stop
    ⟨⟨start, stopAt⟩, wholeGlyphs (trimBlanks gs)⟩ :: cellsOf stop rest

/-- The row that a line is. -/
def Row.ofLine (l : Line) : Row :=
  ⟨⟨l.start, l.stop⟩, cellsOf l.stop (cellParts l)⟩

/-- The cells of a line as the first one of a table. -/
structure HeadCells where
  count : Nat
  /-- Whether the line ends with a bar, so that a cell could begin there. -/
  afterBar : Bool
deriving DecidableEq, Repr

/-- Counts the cells in glyphs on top of those counted. A cell counts from its first character or
from the bar after it; `afterBar` says whether none of them has come since the last bar. -/
def countCells (count : Nat) (afterBar : Bool) : List Glyph → HeadCells
  | [] => ⟨count, afterBar⟩
  | g :: gs =>
    let more := if afterBar then count + 1 else count
    if g.isBlank then countCells count afterBar gs
    else if g.char == '|' then countCells more true gs
    else if g.char == '\\' then
      match gs with
      | [] => countCells more false []
      | h :: hs =>
        if h.char == '\\' || h.char == '|' then countCells more false hs
        else countCells more false (h :: hs)
    else countCells more false gs

/-- The cells of a line as the first row of a table; a line of one bar is none. `afterBar` says
whether a cell counts that would have begun after the last bar of a line before. -/
def headCells? (afterBar : Bool) (l : Line) : Option HeadCells :=
  let isOneBar := match trimBlanks l.glyphs with
    | [g] => g.char == '|'
    | _ => false
  match skipBlanks l.glyphs with
  | g :: gs =>
    if maxIndentation < indentation l.glyphs || isOneBar then none
    else some (countCells 0 (afterBar || g.char != '|') (g :: gs))
  | [] => none

/-- Whether glyphs are dashes, possibly with a colon at either end. -/
def isDelimiter (gs : List Glyph) : Bool :=
  let dashes := (expect? ':' gs).getD gs
  let rest := dashes.dropWhile (·.char == '-')
  rest.length < dashes.length && (rest.map (·.char) == [] || rest.map (·.char) == [':'])

/-- The parts of a list without a first and a last one that are blank. -/
def withoutBlankEnds (parts : List (List Glyph)) : List (List Glyph) :=
  let dropBlank (parts : List (List Glyph)) := match parts with
    | part :: rest => if part.all Glyph.isBlank then rest else parts
    | [] => []
  (dropBlank (dropBlank parts).reverse).reverse

/-- The number of cells that a line has as the second row of a table. -/
def delimiterCells? (l : Line) : Option Nat :=
  let parts := withoutBlankEnds ((barParts l.start [] l.glyphs).map (·.2))
  if maxIndentation < indentation l.glyphs
      || !(l.glyphs.any fun g => g.char == '|' || g.char == ':')
      || !(parts.all fun part => isDelimiter (trimBlanks part)) then none
  else some parts.length

end ProseLinter.Markdown
