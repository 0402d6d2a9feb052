import ProseLinter.Markdown.Definition

/-!
# Blocks

The blocks of a Markdown text before the text in them is read: enclosures and lists, which hold
further blocks, and leaves.

* `Block.span` is where a block stands.
-/

namespace ProseLinter.Markdown

/-- A construct that encloses blocks and marks their lines with a prefix. -/
inductive Enclosure where
  | blockQuote
  /-- An item of a list: the mark that its prefix ends with, the number of columns by which its
  further lines are indented, and whether nothing has followed the prefix so far. -/
  | listItem (marker : Char) (width : Nat) (isBlank : Bool)
  | footnote (identifier : List Char)
deriving Repr

/-- A cell of a table: its span and its text. -/
structure Cell where
  span : Span
  glyphs : List Glyph
deriving Repr

/-- A row of a table. -/
structure Row where
  span : Span
  cells : List Cell
deriving Repr

/-- A block whose text has not been read yet. -/
inductive Block where
  | enclosure (kind : Enclosure) (span : Span) (children : List Block)
  | list (isNumbered : Bool) (span : Span) (items : List Block)
  | paragraph (span : Span) (glyphs : List Glyph)
  /-- A paragraph that begins with a check box, and its text after that; `isFirst` says whether it
  is the first block of its item. -/
  | task (isFirst : Bool) (span : Span) (glyphs : List Glyph)
  | heading (depth : Nat) (span : Span) (glyphs : List Glyph)
  | definition (definition : Definition)
  | thematicBreak (span : Span)
  | code (language : Option String) (span : Span) (value : List Char)
  | html (span : Span) (value : List Char)
  | table (span : Span) (rows : List Row)
deriving Repr

namespace Block

/-- Where a block stands. -/
def span : Block → Span
  | enclosure _ span _ => span
  | list _ span _ => span
  | paragraph span _ => span
  | task _ span _ => span
  | heading _ span _ => span
  | definition d => d.span
  | thematicBreak span => span
  | code _ span _ => span
  | html span _ => span
  | table span _ => span

/-- The mark of the item that a block is. -/
def itemMark? : Block → Option Char
  | enclosure (.listItem marker _ _) _ _ => some marker
  | _ => none

end Block

/-- The greatest number of columns by which the start of a block may be indented. -/
def maxIndentation : Nat := 3

/-- The number of columns by which code is indented. -/
def codeIndentation : Nat := 4

end ProseLinter.Markdown
