import ProseLinter.Markdown.Flow
import ProseLinter.Markdown.Prefix

/-!
# Outlines

The block structure of a text is found line by line. Each line first continues the enclosures that
are open, as far as it has their prefixes; then it may open new ones; what is left of it is read as
part of the flow of lines. Running text also goes on over a line that lacks prefixes, as long as the
line is nothing but text.

* `Outline.push` adds a line, and `Outline.ofLines` gives the blocks of a text.
* An enclosure stops before the line end of the last line that belongs to it, blank lines included,
  unless that line end is part of a block.
-/

namespace ProseLinter.Markdown

/-- An enclosure that is open, and the elements in it so far, the last one first. -/
structure Frame where
  enclosure : Enclosure
  start : Nat
  elements : List Element
deriving Repr

/-- The block structure of the lines read so far. -/
structure Outline where
  /-- The open enclosures, the innermost first. -/
  frames : List Frame
  /-- The elements outside all open enclosures, the last one first. -/
  elements : List Element
  flow : Flow
  /-- Whether the last line lets a lazy line go on with its text. -/
  inText : Bool
deriving Repr

/-- The block of an enclosure that stops at an offset. -/
def Frame.block (f : Frame) (stop : Nat) : Block :=
  let isItem := match f.enclosure with
    | .listItem _ _ _ => true
    | _ => false
  .enclosure f.enclosure ⟨f.start, stop⟩ (Element.blocks isItem f.elements.reverse)

namespace Outline

/-- The outline of no lines. -/
def empty : Outline := ⟨[], [], .empty, false⟩

/-- Adds elements, given in order, after the others. -/
def add (o : Outline) (es : List Element) : Outline :=
  match o.frames with
  | [] => { o with elements := es.reverse ++ o.elements }
  | f :: fs => { o with frames := { f with elements := es.reverse ++ f.elements } :: fs }

/-! ### Closing -/

/-- Closes the innermost enclosure at an offset. -/
def closeFrame (stop : Nat) (o : Outline) : Outline :=
  match o.frames with
  | [] => o
  | f :: fs => { o with frames := fs }.add [.block (f.block stop)]

/-- Takes off the line end that comes last, and gives the offset at which what is before it
stops. -/
def takeEnding (o : Outline) : Outline × Nat × List Element :=
  match o.frames with
  | [] => (o, 0, [])
  | f :: fs =>
    match f.elements with
    | .ending ofBlank e :: es =>
      ({ o with frames := { f with elements := es } :: fs }, e.start, [.ending ofBlank e])
    | .block b :: _ => (o, b.span.stop, [])
    | _ => (o, f.start, [])

/-- Closes the `n` innermost enclosures at the end of the last line. -/
def closeFrames (o : Outline) (n : Nat) : Outline :=
  if n == 0 then o
  else
    let (o, stop, ending) := o.takeEnding
    (n.repeat (closeFrame stop) o).add ending

/-! ### Lines -/

/-- Continues enclosures, given from the outside inwards, as far as the line has their prefixes:
those continued, those not, and the rest of the line. -/
def continueFrames (gs : List Glyph) : List Frame → List Frame × List Frame × List Glyph
  | [] => ([], [], gs)
  | f :: fs =>
    match f.enclosure.continued? gs with
    | none => ([], f :: fs, gs)
    | some (enclosure, rest) =>
      let (kept, lost, rest) := continueFrames rest fs
      ({ f with enclosure } :: kept, lost, rest)

/-- Opens the enclosures whose prefixes a line has, and gives them, the innermost first, with the
rest of the line. `fuel` is at least the number of its glyphs. -/
def openFrames (interrupts : Bool) (opened : List Frame) (l : Line) :
    (fuel : Nat) → List Frame × Line
  | 0 => (opened, l)
  | fuel + 1 =>
    match opening? interrupts l with
    | some (enclosure, rest) =>
      openFrames interrupts (⟨enclosure, l.start, []⟩ :: opened) (l.after rest) fuel
    | none => (opened, l)

/-- Adds the rest of a line that opens no enclosure and lacks the prefixes of `lost` open ones.
These are closed unless the line goes on with the text in them. -/
def pushRest (o : Outline) (lost : Nat) (l : Line) : Outline :=
  let isLazy := 0 < lost
  let s := o.flow.advance isLazy false l
  let o := o.add s.before
  let o :=
    if !isLazy || (o.inText && s.inText) then { o with flow := s.flow }
    else { o.closeFrames lost with flow := { s.flow with isText := false } }
  { o.add s.added with inText := s.inText }

/-- Adds the rest of a line that opens enclosures and lacks the prefixes of `lost` open ones. -/
def pushOpening (o : Outline) (lost : Nat) (opened : List Frame) (skipped : List Char) (l : Line) :
    Outline :=
  let o :=
    if lost == 0 then o
    else
      let (flow, before) := o.flow.finish
      { (o.add before).closeFrames lost with flow := { flow with isText := false } }
  let s := o.flow.advance false true l
  let o := (o.add s.before).add (Element.ofPrefix skipped)
  { o with frames := opened ++ o.frames, flow := s.flow, inText := s.inText }.add s.added

/-- Adds a line. -/
def push (o : Outline) (line : Line) : Outline :=
  let (kept, lost, rest) := continueFrames line.glyphs o.frames.reverse
  let skipped := glyphText (line.glyphs.take (line.glyphs.length - rest.length))
  let o := { o with frames := (kept ++ lost).reverse }
  let l := line.after rest
  let (opened, inner) :=
    if lost.isEmpty && o.flow.current.isConcrete then ([], l)
    else openFrames (lost.isEmpty && o.flow.isText) [] l (rest.length + 1)
  if opened.isEmpty then o.pushRest lost.length { l with skipped }
  else o.pushOpening lost.length opened skipped inner

/-! ### Texts -/

/-- The elements of a text whose last line stops at `textStop`, when all that is open ends. The
enclosures that are open at a last line without a line end stop with the text. -/
def close (o : Outline) (isEnded : Bool) (textStop : Nat) : List Element :=
  let (_, es) := o.flow.finish
  let o := o.add es
  let n := o.frames.length
  (if isEnded then o.closeFrames n else n.repeat (closeFrame textStop) o).elements.reverse

/-- The blocks of a text. -/
def ofLines (lines : List Line) : List Block :=
  let o := lines.foldl push empty
  Element.blocks false <| match lines.getLast? with
    | some l => o.close l.ending.isSome l.next
    | none => []

end Outline

end ProseLinter.Markdown
