import ProseLinter.Document.NodeType
import ProseLinter.Document.Span
import ProseLinter.Json.Basic

/-!
# Document trees

A node has a type, a span in the source, children in order, possibly a literal value, and data
that depend on its type.

* `Node.children_induction` is the induction on a tree from its children.
* `Node.walk` lists a node and all its descendants, each before its own descendants and siblings
  in order; `Node.walk_eq` says so.
* `Node.raw` is the part of the source that a node spans.
* `Node.toJson` leaves out the data.
-/

namespace ProseLinter

/-- What a node of some types has beside its children and value. -/
inductive NodeData where
  | none
  /-- The depth of a header, from one to six. -/
  | header (depth : Nat)
  /-- Whether a list is numbered. -/
  | list (ordered : Bool)
  /-- The language of a code block. -/
  | codeBlock (language : Option String)
  /-- The target and title of a link or an image. -/
  | link (url : String) (title : Option String)
deriving DecidableEq, Repr, Inhabited

/-- A node of a document tree. -/
inductive Node where
  | mk (type : NodeType) (span : Span) (children : List Node) (value : Option String)
    (data : NodeData)
deriving Repr, Inhabited

namespace Node

/-- The type of a node. -/
def type : Node → NodeType
  | mk type _ _ _ _ => type

/-- The span of a node. -/
def span : Node → Span
  | mk _ span _ _ _ => span

/-- The children of a node. -/
def children : Node → List Node
  | mk _ _ children _ _ => children

/-- The literal value of a node. -/
def value : Node → Option String
  | mk _ _ _ value _ => value

/-- The data of a node. -/
def data : Node → NodeData
  | mk _ _ _ _ data => data

/-- Induction on a tree, from its children. -/
@[elab_as_elim]
theorem children_induction {motive : Node → Prop}
    (step : ∀ n, (∀ child ∈ n.children, motive child) → motive n) (n : Node) : motive n :=
  match n with
  | mk type span children value data =>
    step (mk type span children value data) fun child (_ : child ∈ children) =>
      children_induction step child

/-- A node with children. -/
def parent (type : NodeType) (span : Span) (children : List Node) : Node :=
  mk type span children Option.none .none

/-- A node with a literal value. -/
def literal (type : NodeType) (span : Span) (value : String) : Node :=
  mk type span [] (some value) .none

/-- A node with neither children nor a value. -/
def leaf (type : NodeType) (span : Span) : Node :=
  mk type span [] Option.none .none

/-- The node with other data. -/
def withData (data : NodeData) : Node → Node
  | mk type span children value _ => mk type span children value data

/-- Whether a node has children. -/
def hasChildren (n : Node) : Bool :=
  !n.children.isEmpty

/-- The part of the source that a node spans; empty when the span does not fit the source. -/
def raw (n : Node) (source : List Char) : List Char :=
  (Text.slice? source n.span.start n.span.stop).getD []

mutual

/-- A node and all its descendants, in document order. -/
def walk : Node → List Node
  | mk type span children value data => mk type span children value data :: walkAll children

/-- Several nodes and all their descendants, in document order. -/
def walkAll : List Node → List Node
  | [] => []
  | n :: ns => walk n ++ walkAll ns

end

theorem walkAll_eq_flatMap (ns : List Node) : walkAll ns = ns.flatMap walk := by
  induction ns with
  | nil => simp [walkAll]
  | cons n ns ih => simp [walkAll, ih]

/-- A walk begins with the node itself and goes on with its children in order. -/
theorem walk_eq (n : Node) : n.walk = n :: n.children.flatMap walk := by
  cases n
  simp [walk, children, walkAll_eq_flatMap]

/-- The nodes of a type in a tree, in document order. -/
def ofType (n : Node) (type : NodeType) : List Node :=
  n.walk.filter (·.type == type)

mutual

/-- The JSON form of a tree: type, range, children if there are any, value if there is one. -/
def toJson : Node → Json
  | mk type span children value _ =>
    Json.ofFields <|
      [("type", .string type.name), ("range", .array [.ofNat span.start, .ofNat span.stop])]
        ++ (match children with
          | [] => []
          | n :: ns => [("children", .array (toJson n :: toJsonAll ns))])
        ++ (match value with
          | some text => [("value", .string text)]
          | Option.none => [])

/-- The JSON forms of several trees. -/
def toJsonAll : List Node → List Json
  | [] => []
  | n :: ns => toJson n :: toJsonAll ns

end

theorem toJsonAll_eq_map (ns : List Node) : toJsonAll ns = ns.map toJson := by
  induction ns with
  | nil => simp [toJsonAll]
  | cons n ns ih => simp [toJsonAll, ih]

end Node

end ProseLinter
