import ProseLinter.Markdown.Outline
import ProseLinter.Markdown.Phrasing

/-!
# Reading Markdown

A Markdown text is read in two passes: first its blocks, which also tell which targets and
footnotes are defined, and then the text in the blocks.

* `read` gives the syntax tree of a text, and `parse` its document tree.
-/

namespace ProseLinter.Markdown

/-! ### References -/

mutual

/-- The identifiers that a block defines. -/
def Block.references : Block → References
  | .enclosure kind _ children =>
    let inner := blockReferences children
    match kind with
    | .footnote id => { inner with footnotes := id :: inner.footnotes }
    | _ => inner
  | .list _ _ items => blockReferences items
  | .definition d => ⟨[d.identifier], []⟩
  | _ => .empty

/-- The identifiers that blocks define. -/
def blockReferences : List Block → References
  | [] => .empty
  | b :: bs =>
    let first := b.references
    let rest := blockReferences bs
    ⟨first.targets ++ rest.targets, first.footnotes ++ rest.footnotes⟩

end

/-! ### Trees of blocks -/

/-- The kind of tree that an enclosure is. -/
def Enclosure.container : Enclosure → Container
  | blockQuote => .blockQuote
  | listItem _ _ _ => .listItem
  | footnote _ => .footnoteDefinition

/-- The tree of a row of a table. -/
def Row.tree (references : References) (row : Row) : Tree :=
  .container .tableRow row.span <| row.cells.map fun cell =>
    .container .tableCell cell.span (Phrasing.read ⟨references, true⟩ false cell.glyphs)

mutual

/-- The tree of a block. -/
def Block.tree (references : References) : Block → Tree
  | .enclosure kind span children =>
    .container kind.container span (blockTrees references children)
  | .list isNumbered span items =>
    .container (.list isNumbered) span (blockTrees references items)
  | .paragraph span gs => .container .paragraph span (Phrasing.read ⟨references, false⟩ false gs)
  | .task isFirst span gs => taskTree isFirst span (Phrasing.read ⟨references, false⟩ true gs)
  | .heading depth span gs =>
    .container (.heading depth) span (Phrasing.read ⟨references, false⟩ false gs)
  | .definition d => .leaf .definition d.span
  | .thematicBreak span => .leaf .thematicBreak span
  | .code language span value => .leaf (.code language (String.ofList value)) span
  | .html span value => .leaf (.html (String.ofList value)) span
  | .table span rows => .container .table span (rows.map (Row.tree references))

/-- The trees of blocks. -/
def blockTrees (references : References) : List Block → List Tree
  | [] => []
  | b :: bs => b.tree references :: blockTrees references bs

end

/-- The syntax tree of a text. -/
def read (text : List Char) : Tree :=
  let blocks := Outline.ofLines (Line.ofText text)
  .container .root (some ⟨0, Text.byteLength text⟩)
    (blockTrees (blockReferences blocks) blocks)

/-- The document tree of a text. -/
def parse (text : List Char) : Node :=
  (read text).toNode

end ProseLinter.Markdown
