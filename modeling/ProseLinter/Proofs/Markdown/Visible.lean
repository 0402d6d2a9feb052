import ProseLinter.Markdown.Tree
import Mathlib.Data.List.Basic

/-!
# What a document shows of a Markdown tree

The document tree has no type for some kinds of syntax, and a tree of such a kind is opaque: it
becomes a leaf, and a walk meets nothing from below it. All other trees are met, once and in order.

* `Tree.places` : the trees in a tree, each before those below it, with the trees above.
* `Tree.visible` : the trees with no opaque tree above them.
* `Tree.Conveys` : what the node of a tree keeps of it.
* `Tree.toNode_shows_visible` : a walk through the document tree meets the nodes of the visible
  trees, and its literal text is their text.
-/

namespace ProseLinter.Markdown

/-- The kinds of containers that the document tree has no type for. -/
def Container.isOpaque : Container → Bool
  | linkReference | footnoteDefinition | extension _ => true
  | _ => false

/-- The kinds of leaves that the document tree has no type for. -/
def Leaf.isOpaque : Leaf → Bool
  | definition | imageReference | footnoteReference | extension _ _ => true
  | _ => false

namespace Tree

/-- Whether the kind of a tree is one that the document tree has no type for. -/
def isOpaque : Tree → Bool
  | container kind _ _ => kind.isOpaque
  | leaf kind _ => kind.isOpaque

/-- The children of a tree. -/
def children : Tree → List Tree
  | container _ _ children => children
  | leaf _ _ => []

/-- The text that a leaf consists of. -/
def value? : Tree → Option String
  | leaf (.text value) _ => some value
  | leaf (.inlineCode value) _ => some value
  | leaf (.code _ value) _ => some value
  | leaf (.html value) _ => some value
  | leaf (.extension _ value) _ => some value
  | _ => none

/-- The depth of a heading, the order of a list, the language of code, the target of a link or an
image. -/
def data : Tree → NodeData
  | container (.heading depth) _ _ => .header depth
  | container (.list ordered) _ _ => .list ordered
  | container (.link url title) _ _ => .link url title
  | leaf (.code language _) _ => .codeBlock language
  | leaf (.image url title) _ => .link url title
  | _ => .none

/-- The literal text of a tree, with its span. -/
def text? : Tree → Option (Span × String)
  | leaf (.text value) position => some (spanAt position, value)
  | _ => none

/-- Induction on a tree, from its children. -/
@[elab_as_elim]
theorem children_induction {motive : Tree → Prop}
    (step : ∀ t, (∀ u ∈ t.children, motive u) → motive t) (t : Tree) : motive t :=
  match t with
  | leaf kind position => step (leaf kind position) fun _ hu => absurd hu List.not_mem_nil
  | container kind position children =>
    step (container kind position children) fun u (_ : u ∈ children) => children_induction step u

/-! ### Places -/

/-- A tree that stands in another, with the trees above it, the nearest first. -/
structure Place where
  above : List Tree
  tree : Tree

/-- A place can be seen if no tree above it is opaque. -/
def Place.isVisible (p : Place) : Bool :=
  p.above.all (!·.isOpaque)

mutual

/-- The places in a tree below given ones, each before the places below it. -/
def placesBelow (above : List Tree) : Tree → List Place
  | container kind position children =>
    ⟨above, container kind position children⟩
      :: placesBelowAll (container kind position children :: above) children
  | leaf kind position => [⟨above, leaf kind position⟩]

/-- The places in several trees below given ones. -/
def placesBelowAll (above : List Tree) : List Tree → List Place
  | [] => []
  | t :: ts => placesBelow above t ++ placesBelowAll above ts

end

/-- The places in a tree, each before the places below it. -/
def places (t : Tree) : List Place :=
  placesBelow [] t

/-- The trees in a tree that no opaque tree stands above. -/
def visible (t : Tree) : List Tree :=
  (t.places.filter (·.isVisible)).map (·.tree)

theorem placesBelowAll_eq_flatMap (above ts : List Tree) :
    placesBelowAll above ts = ts.flatMap (placesBelow above) := by
  induction ts with
  | nil => rfl
  | cons t ts ih => rw [placesBelowAll, ih, List.flatMap_cons]

/-- The places in a tree are the tree itself and the places in its children. -/
theorem placesBelow_eq (above : List Tree) (t : Tree) :
    placesBelow above t = ⟨above, t⟩ :: t.children.flatMap (placesBelow (t :: above)) := by
  cases t with
  | container kind position children =>
    rw [placesBelow, placesBelowAll_eq_flatMap]
    rfl
  | leaf kind position => rfl

/-- The trees above a tree stand above every place in it. -/
theorem suffix_of_mem_placesBelow {p : Place} {t : Tree} {above : List Tree}
    (hp : p ∈ placesBelow above t) : above <:+ p.above := by
  induction t using children_induction generalizing above with
  | step t ih =>
    rw [placesBelow_eq, List.mem_cons, List.mem_flatMap] at hp
    rcases hp with rfl | ⟨child, hchild, hp⟩
    · exact List.suffix_rfl
    · exact (List.suffix_cons t above).trans (ih child hchild hp)

theorem Place.isVisible_iff {p : Place} : p.isVisible ↔ ∀ u ∈ p.above, ¬ u.isOpaque := by
  simp [isVisible]

/-- Nothing can be seen below an opaque tree. -/
theorem not_isVisible {p : Place} {above : List Tree} {t u : Tree} (hu : u ∈ above)
    (hkind : u.isOpaque) (hp : p ∈ placesBelow above t) : ¬ p.isVisible := by
  rw [Place.isVisible_iff]
  intro hclear
  exact hclear u ((suffix_of_mem_placesBelow hp).subset hu) hkind

/-! ### What a node keeps -/

/-- What a node keeps of the tree that it is made from. -/
structure Conveys (t : Tree) (n : Node) : Prop where
  /-- The node has the span of the tree. -/
  span_eq : n.span = t.span
  /-- Spans are positions, as long as the offsets fit 32 bits. -/
  span_eq_position : ∀ position, t.position = some position → position.start < Span.limit →
    position.stop < Span.limit → n.span = position
  /-- An opaque tree becomes a leaf that has nothing but the span. -/
  eq_leaf : t.isOpaque → n = .leaf .html t.span
  /-- The children of any other tree keep their number and order. -/
  children_eq : ¬ t.isOpaque → n.children = t.children.map toNode
  value_eq : ¬ t.isOpaque → n.value = t.value?
  data_eq : n.data = t.data

/-- A position whose offsets fit 32 bits is the span. -/
theorem span_eq_of_lt {t : Tree} {position : Span} (h : t.position = some position)
    (hstart : position.start < Span.limit) (hstop : position.stop < Span.limit) :
    t.span = position := by
  rw [span, h, spanAt, Nat.mod_eq_of_lt hstart, Nat.mod_eq_of_lt hstop]

/-- A tree that the document tree has no type for becomes a leaf, without its text. -/
theorem toNode_of_isOpaque {t : Tree} (h : t.isOpaque) : t.toNode = .leaf .html t.span := by
  cases t with
  | container kind position children =>
    cases kind <;> first | rfl | exact absurd h Bool.false_ne_true
  | leaf kind position => cases kind <;> first | rfl | exact absurd h Bool.false_ne_true

theorem span_toNode (t : Tree) : t.toNode.span = t.span := by
  cases t with
  | container kind position children => cases kind <;> rfl
  | leaf kind position => cases kind <;> rfl

/-- Every child of a container that is not opaque has a node of its own, in order. -/
theorem children_toNode {t : Tree} (h : ¬ t.isOpaque) :
    t.toNode.children = t.children.map toNode := by
  cases t with
  | container kind position children =>
    cases kind <;> first | exact toNodes_eq_map children | exact absurd rfl h
  | leaf kind position => cases kind <;> rfl

theorem value_toNode {t : Tree} (h : ¬ t.isOpaque) : t.toNode.value = t.value? := by
  cases t with
  | container kind position children => cases kind <;> rfl
  | leaf kind position => cases kind <;> first | rfl | exact absurd rfl h

theorem data_toNode (t : Tree) : t.toNode.data = t.data := by
  cases t with
  | container kind position children => cases kind <;> rfl
  | leaf kind position => cases kind <;> rfl

/-- The node of a tree is literal text if and only if the tree is. -/
theorem literal_toNode (t : Tree) :
    Option.guard (·.type == .str) t.toNode =
      t.text?.map fun text => .literal .str text.1 text.2 := by
  cases t with
  | container kind position children => cases kind <;> rfl
  | leaf kind position => cases kind <;> rfl

/-- The node of a tree keeps what the document tree has a place for. -/
theorem conveys_toNode (t : Tree) : Conveys t t.toNode where
  span_eq := span_toNode t
  span_eq_position := by
    intro position h hstart hstop
    rw [span_toNode, span_eq_of_lt h hstart hstop]
  eq_leaf := toNode_of_isOpaque
  children_eq := children_toNode
  value_eq := value_toNode
  data_eq := data_toNode t

/-! ### What a walk meets -/

/-- A walk through the node of a tree that no opaque tree stands above meets the nodes of the trees
that can be seen. -/
theorem walk_toNode {t : Tree} {above : List Tree} (habove : ∀ u ∈ above, ¬ u.isOpaque) :
    t.toNode.walk = ((placesBelow above t).filter (·.isVisible)).map (·.tree.toNode) := by
  induction t using children_induction generalizing above with
  | step t ih =>
    have hself : Place.isVisible ⟨above, t⟩ := Place.isVisible_iff.mpr habove
    rw [Node.walk_eq, placesBelow_eq, List.filter_cons_of_pos hself, List.map_cons]
    apply congrArg (t.toNode :: ·)
    by_cases hkind : t.isOpaque
    · -- The node has no children, and no place below the tree can be seen.
      rw [toNode_of_isOpaque hkind]
      symm
      apply List.map_eq_nil_iff.mpr
      rw [List.filter_eq_nil_iff]
      intro p hp
      obtain ⟨child, -, hp⟩ := List.mem_flatMap.mp hp
      exact not_isVisible List.mem_cons_self hkind hp
    · rw [children_toNode hkind, List.flatMap_map, List.filter_flatMap, List.map_flatMap]
      apply List.flatMap_congr
      intro child hchild
      apply ih child hchild
      intro u hu
      rcases List.mem_cons.mp hu with rfl | hu
      · exact hkind
      · exact habove u hu

/-- A walk through the document tree meets exactly the nodes of the visible trees, in order, and a
rule that goes through the nodes of some type gets those of this type among them. The literal text
that it gets is the text that no opaque tree stands above, each piece with its span and value. Every
node keeps what there is to keep of its tree. -/
theorem toNode_shows_visible (t : Tree) :
    t.toNode.walk = t.visible.map toNode ∧
      (∀ type, t.toNode.ofType type = (t.visible.filter (·.toNode.type == type)).map toNode) ∧
      t.toNode.ofType .str =
        (t.visible.filterMap text?).map (fun text => .literal .str text.1 text.2) ∧
      ∀ u : Tree, Conveys u u.toNode := by
  have hwalk : t.toNode.walk = t.visible.map toNode := by
    rw [walk_toNode (List.forall_mem_nil _), visible, places, List.map_map]
    rfl
  refine ⟨hwalk, ?_, ?_, conveys_toNode⟩
  · intro type
    rw [Node.ofType, hwalk, List.filter_map]
    rfl
  · rw [Node.ofType, hwalk, ← List.filterMap_eq_filter, List.filterMap_map, List.map_filterMap]
    apply List.filterMap_congr
    intro u _
    exact literal_toNode u

/-- In a heading with a link whose target is defined elsewhere, the text of the link is not seen. -/
example :
    let link := container .linkReference (some ⟨4, 10⟩) [leaf (.text "b") (some ⟨5, 6⟩)]
    let emphasis := container .emphasis (some ⟨11, 14⟩) [leaf (.text "d") (some ⟨12, 13⟩)]
    let heading := container (.heading 1) (some ⟨0, 14⟩)
      [leaf (.text "a ") (some ⟨2, 4⟩), link, leaf (.text " ") (some ⟨10, 11⟩), emphasis]
    heading.toNode.ofType .str = [.literal .str ⟨2, 4⟩ "a ", .literal .str ⟨10, 11⟩ " ",
      .literal .str ⟨12, 13⟩ "d"] := by
  rfl

end Tree

end ProseLinter.Markdown
