import ProseLinter.Markdown.Element
import ProseLinter.Markdown.HtmlBlock

/-!
# The flow of lines

What is left of the lines after the prefixes of their enclosures is read line by line. A line goes
on with the block that the line before has left open, or shows that it has ended and begins
something itself. Whether a block goes on may also depend on the enclosures: a lazy line, which lacks
prefixes of open enclosures, and a pierced line, on which a new enclosure has opened, end most
blocks.

* `Flow.advance` reads a line, and `Flow.close` ends the block that is open.
-/

namespace ProseLinter.Markdown

/-- The block that the lines so far have left open. Lines are kept with the last one first. -/
inductive OpenBlock where
  | none
  /-- A line that is the first one of a table if the next line fits. -/
  | tableHead (line : Line) (cells : HeadCells)
  /-- Indented code, its offset, its lines without indentation, and the blank lines after it that
  belong to it if more code follows. -/
  | indented (start : Nat) (lines blanks : List Line)
  /-- Fenced code: the fence, the offset up to which the last line goes, the line that opened the
  fence without its glyphs, and the lines after. -/
  | fenced (fence : Fence) (reach : Nat) (lines : List Line)
  | html (kind : Html.Kind) (lines : List Line)
deriving Repr

/-- What the lines so far end with, apart from line ends. -/
inductive Trail where
  | text
  | underline
  | table
  | other
deriving DecidableEq, Repr

/-- How far the lines have been read. -/
structure Flow where
  current : OpenBlock
  trail : Trail
  /-- Whether the lines end with text that only some constructs interrupt. -/
  isText : Bool
  /-- Whether the last line was lazy. -/
  isLazy : Bool
  /-- Whether a line that turned out to be no head of a table because the next line was lazy or
  pierced ended with a bar. The cell that would have begun there is still counted. -/
  afterBar : Bool
deriving Repr

/-- What reading a line gives: the elements that the line shows to come before it, those that it
adds, and whether the lines now end with running text. -/
structure FlowStep where
  flow : Flow
  before : List Element
  added : List Element
  inText : Bool

/-! ### Texts of lines -/

/-- The lines with the line ends between them, and the last line end if asked for. -/
def linesText (withLast : Bool) : List Line → List Char
  | [] => []
  | [l] => glyphText l.glyphs ++ if withLast then glyphText l.ending.toList else []
  | l :: ls => glyphText l.glyphs ++ glyphText l.ending.toList ++ linesText withLast ls

/-- The text without a line end at its start. -/
def dropLineStart : List Char → List Char
  | '\r' :: '\n' :: cs => cs
  | '\r' :: cs => cs
  | '\n' :: cs => cs
  | cs => cs

/-- The text without a line end at its end. -/
def dropLineEnd (cs : List Char) : List Char :=
  match cs.reverse with
  | '\n' :: '\r' :: rest => rest.reverse
  | '\n' :: rest => rest.reverse
  | '\r' :: rest => rest.reverse
  | _ => cs

/-- A line with so many columns of indentation removed. -/
def dedent (n : Nat) (l : Line) : Line :=
  l.after (skipColumns n l.glyphs)

/-- The offset at which lines start, given with the last one first. -/
def linesStart (lines : List Line) : Nat :=
  match lines.getLast? with
  | some l => l.start
  | none => 0

namespace OpenBlock

/-- Whether no enclosure can open inside the block. -/
def isConcrete : OpenBlock → Bool
  | fenced _ _ _ => true
  | html _ _ => true
  | _ => false

/-- The elements of indented code: the code, and the line ends and blank lines after it. -/
def indentedElements (start : Nat) (lines blanks : List Line) : List Element :=
  match lines with
  | [] => []
  | last :: _ =>
    let value := dropLineEnd (linesText false lines.reverse)
    .block (.code Option.none ⟨start, last.stop⟩ value) :: Element.ofEnding last
      ++ blanks.reverse.flatMap Element.ofBlank

/-- The elements of a block that ends without an end of its own. `runsOn` says whether it takes the
line end after it in; otherwise it stops at `reach`. `make` gives the block. -/
def unendedElements (runsOn : Bool) (reach : Nat) (lines : List Line)
    (make : Nat → List Char → Block) : List Element :=
  match lines with
  | [] => []
  | last :: _ =>
    let stop := if runsOn then last.next else reach
    .block (make stop (linesText runsOn lines.reverse))
      :: if runsOn then [] else Element.ofEnding last

/-- The fenced code of lines, given with the last one first. -/
def fencedBlock (fence : Fence) (stop : Nat) (text : List Char) : Block :=
  .code fence.language ⟨fence.start, stop⟩ (dropLineEnd (dropLineStart text))

/-- The offset up to which lines go, given with the last one first. -/
def linesReach (lines : List Line) : Nat :=
  match lines with
  | last :: _ => last.reach
  | [] => 0

/-- The HTML of lines, given with the last one first. -/
def htmlBlock (lines : List Line) (stop : Nat) (text : List Char) : Block :=
  .html ⟨linesStart lines, stop⟩ text

end OpenBlock

namespace Flow

/-- The flow of no lines. -/
def empty : Flow := ⟨.none, .other, false, false, false⟩

/-- Whether a further line that lacks prefixes may go on with running text. -/
def inText (f : Flow) : Bool :=
  match f.current with
  | .none => f.trail == .text || f.trail == .underline
  | .tableHead _ _ => true
  | _ => false

/-! ### Closing -/

/-- The flow after something other than text. -/
def settle (f : Flow) : Flow :=
  { f with current := .none, trail := .other, isText := false }

/-- Ends the block that is open, when the next line does not go on with it. `runsOn` says whether
fenced code and HTML without an end take in the line end after them. -/
def close (f : Flow) (runsOn : Bool) : Flow × List Element :=
  match f.current with
  | .none => (f, [])
  | .tableHead l _ =>
    ({ f with current := .none, trail := .text, isText := true }, .text l :: Element.ofEnding l)
  | .indented start lines blanks => (f.settle, OpenBlock.indentedElements start lines blanks)
  | .fenced fence reach lines =>
    (f.settle, OpenBlock.unendedElements runsOn reach lines (OpenBlock.fencedBlock fence))
  | .html kind lines =>
    (f.settle, OpenBlock.unendedElements (runsOn && !kind.endsBeforeBlank)
      (OpenBlock.linesReach lines) lines (OpenBlock.htmlBlock lines))

/-! ### Beginning blocks -/

/-- Whether the first character of a line allows the line to be a row of a table. -/
def mayBeRow (l : Line) : Bool :=
  match l.glyphs with
  | [] => true
  | g :: _ => !"#$\x60~*_ei\x7b".toList.contains g.char

/-- Takes a line as running text. -/
def addText (f : Flow) (l : Line) : Flow × List Element :=
  ({ f with current := .none, trail := .text, isText := true }, .text l :: Element.ofEnding l)

/-- Takes a line as a block of its own. -/
def addBlock (f : Flow) (b : Block) (l : Line) : Flow × List Element :=
  (f.settle, .block b :: Element.ofEnding l)

/-- Takes a line as a row of a table, as a line that may be the first one of a table, or else as
running text. -/
def beginRow (f : Flow) (pierced : Bool) (l : Line) : Flow × List Element :=
  if !mayBeRow l then f.addText l
  else if f.trail == .table && !pierced then
    if f.isLazy then f.addText l else (f, .tableRow l :: Element.ofEnding l)
  else if maxIndentation < indentation l.glyphs then f.addText l
  else
    match l.ending, headCells? f.afterBar l with
    | some _, some cells =>
      ({ f with current := .tableHead l cells, trail := .other, isText := true
                afterBar := false }, [])
    | _, _ => { f with afterBar := false }.addText l

/-- Begins what a line begins when no block is open. -/
def begin (f : Flow) (pierced : Bool) (l : Line) : Flow × List Element :=
  if l.isBlank then
    ({ f with trail := .other, isText := f.isText && l.ending.isNone }, Element.ofBlank l)
  else
    let prefixed (r : Flow × List Element) := (r.1, Element.ofPrefix l.skipped ++ r.2)
    prefixed <|
      if !f.isText && codeIndentation ≤ indentation l.glyphs then
        let f := { f with
          current := .indented l.start [dedent codeIndentation l] [], trail := .other }
        if f.isLazy || pierced then f.close false else (f, [])
      else
        match fence? l with
        | some fence =>
          ({ f with current := .fenced fence l.stop [l.after []], trail := .other, isText := false },
            [])
        | none =>
          let asClosing := f.afterBar
          let f := { f with afterBar := f.afterBar && !Html.looksLikeTag l.glyphs }
          match Html.start (f.isText && !f.isLazy) asClosing l.glyphs with
          | .begins _ true => f.addBlock (.html ⟨l.start, l.stop⟩ (linesText false [l])) l
          | .begins kind false =>
            ({ f with current := .html kind [l], trail := .other, isText := false }, [])
          | _ =>
            match heading? l with
            | some b => f.addBlock b l
            | none =>
              match if f.isLazy || !(f.trail == .text || f.trail == .underline) then none
                else underlineDepth? l with
              | some depth =>
                ({ f with trail := .underline, isText := false },
                  .underline depth l :: Element.ofEnding l)
              | none =>
                match thematicBreak? l with
                | some b => f.addBlock b l
                | none => f.beginRow pierced l

/-- Whether nothing in a lazy line keeps it from being running text, even if the line went on. No
block is open before it. -/
def isPlainText (f : Flow) (l : Line) : Bool :=
  !(l.isBlank || (!f.isText && codeIndentation ≤ indentation l.glyphs) || mayOpenFence l
    || Html.start false f.afterBar l.glyphs != .refused || (heading? l).isSome
    || isBreakMarks (skipColumns maxIndentation l.glyphs))

/-! ### Lines -/

/-- Ends the block that is open and begins what the line begins. -/
def restart (f : Flow) (pierced : Bool) (l : Line) : FlowStep :=
  let (f, before) := f.close false
  let (f, added) := f.begin pierced l
  ⟨f, before, added, f.inText⟩

/-- Goes on with the block that is open. -/
def goOn (f : Flow) (added : List Element) : FlowStep :=
  ⟨f, [], added, f.inText⟩

/-- Reads a line. -/
def step (f : Flow) (isLazy pierced : Bool) (l : Line) : FlowStep :=
  let f := { f with isLazy }
  match f.current with
  | .none => f.restart pierced l
  | .tableHead head cells =>
    if isLazy || pierced then { f with afterBar := cells.afterBar }.restart pierced l
    else if delimiterCells? l == some cells.count then
      { f with current := .none, trail := .table, isText := false }.goOn
        (.tableHead head l.stop :: Element.ofEnding l)
    else f.restart pierced l
  | .indented start lines blanks =>
    if isLazy || pierced then f.restart pierced l
    else if codeIndentation ≤ indentation l.glyphs then
      let lines := dedent codeIndentation l :: (blanks.map (·.after []) ++ lines)
      { f with current := .indented start lines [] }.goOn []
    else if l.isBlank then { f with current := .indented start lines (l :: blanks) }.goOn []
    else f.restart pierced l
  | .fenced fence _ lines =>
    if isLazy then f.restart pierced l
    else if fence.isClosedBy l then
      let text := linesText true lines.reverse
      let (f, added) := f.addBlock (OpenBlock.fencedBlock fence l.stop text) l
      f.goOn added
    else
      let lines := dedent fence.indent l :: lines
      { f with current := .fenced fence l.reach lines }.goOn []
  | .html kind lines =>
    if isLazy || (kind.endsBeforeBlank && l.isBlank) then f.restart pierced l
    else
      let lines := l :: lines
      if kind.endsIn l.glyphs then
        let text := linesText false lines.reverse
        let (f, added) := f.addBlock (OpenBlock.htmlBlock lines l.stop text) l
        f.goOn added
      else { f with current := .html kind lines }.goOn []

/-- Ends the block that is open where no line follows. A line that was lazy does not let a block
run on. -/
def finish (f : Flow) : Flow × List Element :=
  let afterBar := match f.current with
    | .tableHead _ cells => f.isLazy && cells.afterBar
    | _ => f.afterBar
  { f with afterBar }.close !f.isLazy

/-- Reads a line; one without a line end also ends the block that it leaves open. -/
def advance (f : Flow) (isLazy pierced : Bool) (l : Line) : FlowStep :=
  if l.ending.isSome then f.step isLazy pierced l
  else if l.glyphs.isEmpty then
    let (next, before) := { f with isLazy }.finish
    ⟨next, before, Element.ofPrefix l.skipped, f.inText⟩
  else
    let s := f.step isLazy pierced l
    let (next, rest) := s.flow.finish
    ⟨next, s.before, s.added ++ rest, { f with isLazy }.finish.1.isPlainText l⟩

end Flow

end ProseLinter.Markdown
