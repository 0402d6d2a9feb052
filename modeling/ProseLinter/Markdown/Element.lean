import ProseLinter.Markdown.TableRow
import ProseLinter.Markdown.LineBlock
import ProseLinter.Markdown.ItemList
import ProseLinter.Markdown.Task

/-!
# Elements

The lines of an enclosure are first taken down as a sequence of elements: finished blocks, lines of
running text, underlines and rows of tables, with the line ends and prefixes between them. When the
enclosure ends, its elements are put together to blocks.

* `Element.joinText` replaces running text by the definitions and the paragraph in it.
* `Element.resolveUnderlines` makes headings of underlined paragraphs.
* `Element.joinRows` joins the rows of tables.
* `Element.blocks` does all of this, and finds the lists and the task of an item.
-/

namespace ProseLinter.Markdown

/-- What follows one another in an enclosure. -/
inductive Element where
  /-- A line end that belongs to no block; `ofBlank` says whether it ends a blank line. -/
  | ending (ofBlank : Bool) (glyph : Glyph)
  /-- Prefixes or blanks that belong to no block; `quoted` says whether the mark of a block quote
  is among them. -/
  | gap (quoted : Bool)
  /-- A line of running text. -/
  | text (line : Line)
  /-- A line that underlines text. -/
  | underline (depth : Nat) (line : Line)
  /-- The first line of a table, and the offset at which the second one stops. -/
  | tableHead (line : Line) (stop : Nat)
  /-- A further row of a table. -/
  | tableRow (line : Line)
  | block (block : Block)
deriving Repr

namespace Element

/-- The elements of a prefix. -/
def ofPrefix (skipped : List Char) : List Element :=
  if skipped.isEmpty then [] else [gap (skipped.contains '>')]

/-- The line end of a line that is not blank. -/
def ofEnding (l : Line) : List Element :=
  l.ending.toList.map (ending false)

/-- The elements of a blank line. -/
def ofBlank (l : Line) : List Element :=
  ofPrefix l.skipped ++ (if l.glyphs.isEmpty then [] else [gap false])
    ++ l.ending.toList.map (ending true)

/-! ### Running text -/

/-- The elements of running text, given as lines with the last one first: its definitions and a
paragraph of what is left. -/
def ofText (lines : List Line) : List Element :=
  match lines with
  | [] => []
  | last :: _ =>
    let gs := Line.join lines.reverse
    let (definitions, rest) := Definition.takeAll last.stop gs.length gs
    let paragraph := match rest with
      | [] => []
      | g :: _ => [block (.paragraph ⟨g.start, last.stop⟩ rest)]
    definitions.flatMap (fun (d, end?) => block (.definition d) :: match end? with
      | some e => ending false e :: ofPrefix e.skipped
      | none => []) ++ paragraph

/-- Running text that may go on, and what has followed it: a line end and prefixes. Both have the
last one first. -/
structure OpenText where
  lines : List Line
  held : List Element

/-- The elements of running text that has ended, the last one first. -/
def OpenText.ended (t : OpenText) : List Element :=
  t.held ++ (ofText t.lines).reverse

/-- Replaces running text by what it consists of. `done` holds the elements before the text `t`, the
last one first. -/
def joinText (done : List Element) (t : OpenText) : List Element → List Element
  | [] => (t.ended ++ done).reverse
  | e :: es =>
    let isOpen := !t.lines.isEmpty
    match e with
    | text l =>
      if isOpen && !t.held.isEmpty then joinText done ⟨l :: t.lines, []⟩ es
      else joinText (t.ended ++ done) ⟨[l], []⟩ es
    | ending false _ =>
      if isOpen && t.held.isEmpty then joinText done ⟨t.lines, [e]⟩ es
      else joinText (e :: (t.ended ++ done)) ⟨[], []⟩ es
    | gap _ =>
      if isOpen && !t.held.isEmpty then joinText done ⟨t.lines, e :: t.held⟩ es
      else joinText (e :: (t.ended ++ done)) ⟨[], []⟩ es
    | _ => joinText (e :: (t.ended ++ done)) ⟨[], []⟩ es

/-! ### Underlines -/

/-- The elements before an underline that do not part it from a paragraph are dropped. -/
def dropSeparators : List Element → List Element
  | ending false _ :: es => dropSeparators es
  | gap _ :: es => dropSeparators es
  | es => es

/-- Makes a heading of each paragraph that is underlined. An underline with no paragraph before it
begins the paragraph on the next line, or is a paragraph by itself. `done` holds the elements so
far, the last one first. -/
def resolveUnderlines (done : List Element) : List Element → List Element
  | [] => done.reverse
  | underline depth l :: es =>
    match dropSeparators done with
    | block (.paragraph span gs) :: before =>
      resolveUnderlines (block (.heading depth ⟨span.start, l.stop⟩ gs) :: before) es
    | _ =>
      let own := wholeGlyphs l.glyphs
      match es with
      | ending false e :: block (.paragraph span gs) :: es =>
        let joined := own ++ e :: gs
        resolveUnderlines (block (.paragraph ⟨l.start, span.stop⟩ joined) :: done) es
      | es => resolveUnderlines (block (.paragraph ⟨l.start, l.stop⟩ own) :: done) es
  | e :: es => resolveUnderlines (e :: done) es

/-! ### Tables -/

/-- The first lines of a table and the rows read so far, the last one first. -/
structure OpenTable where
  start : Nat
  stop : Nat
  rows : List Row

/-- Puts a table, if one is open, on top of the elements before it. -/
def endTable (open? : Option OpenTable) (done : List Element) : List Element :=
  match open? with
  | some t => block (.table ⟨t.start, t.stop⟩ t.rows.reverse) :: done
  | none => done

/-- Joins the rows of tables; `open?` is the table whose rows are being read, and `done` holds the
elements before it, the last one first. What stands between the rows is dropped. -/
def joinRows (done : List Element) (open? : Option OpenTable) : List Element → List Element
  | [] => (endTable open? done).reverse
  | e :: es =>
    match e, open? with
    | tableHead l stop, _ =>
      joinRows (endTable open? done) (some ⟨l.start, stop, [Row.ofLine l]⟩) es
    | tableRow l, some t => joinRows done (some ⟨t.start, l.stop, Row.ofLine l :: t.rows⟩) es
    | tableRow l, none => joinRows done (some ⟨l.start, l.stop, [Row.ofLine l]⟩) es
    | ending _ _, some _ => joinRows done open? es
    | gap _, some _ => joinRows done open? es
    | e, _ => joinRows (e :: endTable open? done) none es

/-! ### Tasks -/

/-- The elements of an item, in which the first paragraph is a task if it begins with a check box.
Definitions may come before it; `isFirst` says whether none has. -/
def markTask (isFirst : Bool) : List Element → List Element
  | block (.paragraph span gs) :: es =>
    match afterCheckBox? gs with
    | some rest => block (.task isFirst span rest) :: es
    | none => block (.paragraph span gs) :: es
  | block (.definition d) :: es => block (.definition d) :: markTask false es
  | ending ofBlank e :: es => ending ofBlank e :: markTask isFirst es
  | gap false :: es => gap false :: markTask isFirst es
  | es => es

/-! ### Blocks -/

/-- The blocks among elements, each with whether it follows the one before it at once. `done` holds
the blocks so far, the last one first. -/
def placedBlocks (done : List (Bool × Block)) (isNext : Bool) :
    List Element → List (Bool × Block)
  | [] => done.reverse
  | block b :: es => placedBlocks ((isNext, b) :: done) true es
  | _ :: es => placedBlocks done false es

/-- The blocks that elements make up; `inItem` says whether they are those of an item. -/
def blocks (inItem : Bool) (es : List Element) : List Block :=
  let es := joinRows [] none (resolveUnderlines [] (joinText [] ⟨[], []⟩ es))
  ItemList.join [] none (placedBlocks [] false (if inItem then markTask true es else es))

end Element

end ProseLinter.Markdown
