import ProseLinter.Document.Node

/-!
# Markdown syntax trees

What a Markdown text is made of, as the reader of Markdown gives it: containers with children in
order, and leaves, each with its position in the text. The rules of the linter see a document tree
instead, which knows fewer kinds and gives every node a span.

* `Tree.toNode` gives the document tree. A container or leaf that the document tree has no type
  for becomes an opaque leaf, so that no rule looks inside it; everything else keeps its place, its
  span and its data.
-/

namespace ProseLinter.Markdown

/-- The kinds of syntax that have children. -/
inductive Container where
  | root
  | paragraph
  | heading (depth : Nat)
  | blockQuote
  | list (ordered : Bool)
  | listItem
  | table
  | tableRow
  | tableCell
  | emphasis
  | strong
  | delete
  | link (url : String) (title : Option String)
  /-- A link whose target is defined elsewhere. -/
  | linkReference
  | footnoteDefinition
  /-- A container of an extension that this library does not read. -/
  | extension (name : String)
deriving DecidableEq, Repr, Inhabited

/-- The kinds of syntax without children. -/
inductive Leaf where
  | text (value : String)
  | inlineCode (value : String)
  | code (language : Option String) (value : String)
  | html (value : String)
  | image (url : String) (title : Option String)
  | thematicBreak
  | break
  /-- The definition of the target of references. -/
  | definition
  /-- An image whose target is defined elsewhere. -/
  | imageReference
  | footnoteReference
  /-- A leaf of an extension that this library does not read, such as math or front matter. -/
  | extension (name value : String)
deriving DecidableEq, Repr, Inhabited

/-- A Markdown text as a tree. Trees that were read have positions, and others need not have one. -/
inductive Tree where
  | container (kind : Container) (position : Option Span) (children : List Tree)
  | leaf (kind : Leaf) (position : Option Span)
deriving Repr, Inhabited

/-- The node type and data of a container; none when it is opaque. -/
def Container.nodeType? : Container → Option (NodeType × NodeData)
  | root => some (.document, .none)
  | paragraph => some (.paragraph, .none)
  | heading depth => some (.header, .header depth)
  | blockQuote => some (.blockQuote, .none)
  | list ordered => some (.list, .list ordered)
  | listItem => some (.listItem, .none)
  | table => some (.table, .none)
  | tableRow => some (.tableRow, .none)
  | tableCell => some (.tableCell, .none)
  | emphasis => some (.emphasis, .none)
  | strong => some (.strong, .none)
  | delete => some (.delete, .none)
  | link url title => some (.link, .link url title)
  | linkReference => none
  | footnoteDefinition => none
  | extension _ => none

/-- The node of a leaf. -/
def Leaf.toNode (span : Span) : Leaf → Node
  | text value => .literal .str span value
  | inlineCode value => .literal .code span value
  | code language value => (Node.literal .codeBlock span value).withData (.codeBlock language)
  | html value => .literal .html span value
  | image url title => (Node.leaf .image span).withData (.link url title)
  | thematicBreak => .leaf .horizontalRule span
  | .break => .leaf .break span
  | definition => .leaf .html span
  | imageReference => .leaf .html span
  | footnoteReference => .leaf .html span
  | extension _ _ => .leaf .html span

namespace Tree

/-- The position of a tree, if it is known. -/
def position : Tree → Option Span
  | container _ position _ => position
  | leaf _ position => position

/-- The span for a position: of an offset it keeps the lowest 32 bits, and it is empty if the
position is not known. -/
def spanAt : Option Span → Span
  | some p => ⟨p.start % Span.limit, p.stop % Span.limit⟩
  | none => ⟨0, 0⟩

/-- The span of a tree. -/
def span (t : Tree) : Span :=
  spanAt t.position

mutual

/-- The document tree of a Markdown tree. -/
def toNode : Tree → Node
  | container kind position children =>
    match kind.nodeType? with
    | some (type, data) => (Node.parent type (spanAt position) (toNodes children)).withData data
    | none => .leaf .html (spanAt position)
  | leaf kind position => kind.toNode (spanAt position)

/-- The document trees of several Markdown trees. -/
def toNodes : List Tree → List Node
  | [] => []
  | t :: ts => toNode t :: toNodes ts

end

/-- Every child has a node of its own, in order. -/
theorem toNodes_eq_map (ts : List Tree) : toNodes ts = ts.map toNode := by
  induction ts with
  | nil => rfl
  | cons t ts ih => rw [toNodes, ih, List.map_cons]

end Tree

end ProseLinter.Markdown
