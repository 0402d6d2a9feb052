/-!
# Node types

The kinds of nodes of a document tree, their names and their two families: blocks, and nodes whose
content is a literal text.
-/

namespace ProseLinter

/-- The kind of a node. -/
inductive NodeType where
  | document
  | paragraph
  | header
  | blockQuote
  | list
  | listItem
  | codeBlock
  | horizontalRule
  | html
  | table
  | tableRow
  | tableCell
  | str
  | break
  | emphasis
  | strong
  | delete
  | code
  | link
  | image
deriving DecidableEq, Repr, Inhabited

namespace NodeType

/-- The name by which modules and reports refer to a node type. -/
def name : NodeType → String
  | document => "Document"
  | paragraph => "Paragraph"
  | header => "Header"
  | blockQuote => "BlockQuote"
  | list => "List"
  | listItem => "ListItem"
  | codeBlock => "CodeBlock"
  | horizontalRule => "HorizontalRule"
  | html => "Html"
  | table => "Table"
  | tableRow => "TableRow"
  | tableCell => "TableCell"
  | str => "Str"
  | .break => "Break"
  | emphasis => "Emphasis"
  | strong => "Strong"
  | delete => "Delete"
  | code => "Code"
  | link => "Link"
  | image => "Image"

/-- All node types, blocks first. -/
def all : List NodeType :=
  [document, paragraph, header, blockQuote, list, listItem, codeBlock, horizontalRule, html, table,
   tableRow, tableCell, str, .break, emphasis, strong, delete, code, link, image]

/-- The node type of a name. -/
def ofName? (name : String) : Option NodeType :=
  all.find? (·.name == name)

/-- Whether nodes of the type are blocks. -/
def isBlock : NodeType → Bool
  | document | paragraph | header | blockQuote | list | listItem | codeBlock | horizontalRule
  | html | table | tableRow => true
  | _ => false

/-- Whether the content of nodes of the type is a literal text. -/
def isText : NodeType → Bool
  | str | code | codeBlock | html => true
  | _ => false

/-- The text of the error for a name that no node type has. -/
def unknownMessage (name : String) : String :=
  "unknown node type '" ++ name ++ "'"

/-- A node type is found by its name. -/
theorem ofName?_name (t : NodeType) : ofName? t.name = some t := by
  cases t <;> decide

end NodeType

end ProseLinter
