import Mathlib.Data.List.Chain
import ProseLinter.Proofs.Document.Runs

/-!
# The order of a walk

A node of a tree has a place: the numbers of the children that lead to it from the root. Equal nodes
may stand at several places, and a walk comes to each place once, in the order of a book with
chapters and sections. Where all nodes hold their children one behind the other, this is also the
order of their spans.

* `Node.nodeAt?` : the node at an address, and `Node.places` : all places of a tree in order.
* `Node.visit` : a walk that calls a function for every node; `Node.visit_eq_foldl` says that it
  calls it for the nodes of `Node.walk`.
* `Node.SpansNest` : all nodes hold their children one behind the other.
* `Node.SpansNest.isPrefix_or_stop_le` : of two places the earlier one stands above the other or
  stops before it.
* `Node.walk_in_source_order` : the order in which a walk comes to the nodes.
* `PlainText.spansNest_parse` : the documents of plain texts are such trees.
-/

namespace ProseLinter

namespace Node

/-! ### Places -/

/-- The node at an address: the numbers, counted from zero, of the children that lead to it. -/
def nodeAt? (n : Node) : List Nat → Option Node
  | [] => some n
  | number :: address => n.children[number]?.bind (nodeAt? · address)

/-- A node of a tree and its address. -/
structure Place where
  address : List Nat
  node : Node

/-- A place below a child, seen from the node above the child. -/
def Place.below (number : Nat) (p : Place) : Place :=
  ⟨number :: p.address, p.node⟩

mutual

/-- The places of a tree: the root before all others, and the children in order, each with what is
below it. -/
def places : Node → List Place
  | mk type span children value data =>
    ⟨[], mk type span children value data⟩ :: placesAmong 0 children

/-- The places below several children, of which the first has the given number. -/
def placesAmong : Nat → List Node → List Place
  | _, [] => []
  | number, n :: ns => (places n).map (·.below number) ++ placesAmong (number + 1) ns

end

variable {n m : Node} {p : Place} {address address' : List Nat} {number : Nat}

theorem placesAmong_eq (number : Nat) (ns : List Node) :
    placesAmong number ns =
      (ns.zipIdx number).flatMap fun child => child.1.places.map (·.below child.2) := by
  induction ns generalizing number with
  | nil => rfl
  | cons n ns ih => rw [placesAmong, ih, List.zipIdx_cons, List.flatMap_cons]

/-- The places of a tree are the root and those of its children, seen from the root. -/
theorem places_eq (n : Node) : n.places = ⟨[], n⟩ ::
    n.children.zipIdx.flatMap fun child => child.1.places.map (·.below child.2) := by
  cases n
  rw [places, placesAmong_eq]
  rfl

theorem nodeAt?_cons_eq_some_iff : n.nodeAt? (number :: address) = some m ↔
    ∃ child, n.children[number]? = some child ∧ child.nodeAt? address = some m :=
  Option.bind_eq_some_iff

/-- The places of a tree are all its addresses, with the nodes there. -/
theorem mem_places_iff : p ∈ n.places ↔ n.nodeAt? p.address = some p.node := by
  induction n using children_induction generalizing p with
  | step n ih =>
    obtain ⟨address, node⟩ := p
    rw [places_eq, List.mem_cons, List.mem_flatMap]
    cases address with
    | nil =>
      -- Only the root has this address: the places below it start with a number.
      constructor
      · rintro (h | ⟨child, -, h⟩)
        · exact congrArg some (Place.mk.inj h).2.symm
        · obtain ⟨q, -, hq⟩ := List.mem_map.1 h
          cases (Place.mk.inj hq).1
      · intro h
        exact .inl (congrArg (Place.mk []) (Option.some.inj h).symm)
    | cons number address =>
      rw [nodeAt?_cons_eq_some_iff]
      constructor
      · rintro (h | ⟨⟨child, number'⟩, hchild, h⟩)
        · cases (Place.mk.inj h).1
        · -- The number says which child the place is below.
          obtain ⟨q, hq, heq⟩ := List.mem_map.1 h
          obtain ⟨haddress, rfl⟩ := Place.mk.inj heq
          obtain ⟨rfl, rfl⟩ := List.cons.inj haddress
          have hget := List.mem_zipIdx_iff_getElem?.1 hchild
          exact ⟨child, hget, (ih child (List.mem_of_getElem? hget)).1 hq⟩
      · rintro ⟨child, hget, hnode⟩
        refine .inr ⟨(child, number), List.mem_zipIdx_iff_getElem?.2 hget, ?_⟩
        exact List.mem_map.2 ⟨⟨address, node⟩, (ih child (List.mem_of_getElem? hget)).2 hnode, rfl⟩

/-- The addresses of the places are in lexicographic order. -/
theorem pairwise_address_places (n : Node) :
    n.places.Pairwise fun p q => p.address < q.address := by
  induction n using children_induction with
  | step n ih =>
    rw [places_eq, List.pairwise_cons, List.pairwise_flatMap]
    refine ⟨?_, ?_, ?_⟩
    · intro q hq
      obtain ⟨child, -, hq⟩ := List.mem_flatMap.1 hq
      obtain ⟨q, -, rfl⟩ := List.mem_map.1 hq
      exact List.nil_lt_cons _ _
    · intro child hchild
      have hmem := List.mem_of_getElem? (List.mem_zipIdx_iff_getElem?.1 hchild)
      rw [List.pairwise_map]
      exact (ih child.1 hmem).imp fun hlt => List.cons_lt_cons_iff.2 (.inr ⟨rfl, hlt⟩)
    · -- What is below an earlier child has the smaller first number.
      have hnumbers : (n.children.zipIdx.map Prod.snd).Pairwise (· < ·) := by
        rw [List.zipIdx_map_snd]
        exact List.pairwise_lt_range'
      refine (List.pairwise_map.1 hnumbers).imp ?_
      intro child child' hlt p hp q hq
      obtain ⟨p, -, rfl⟩ := List.mem_map.1 hp
      obtain ⟨q, -, rfl⟩ := List.mem_map.1 hq
      exact List.cons_lt_cons_iff.2 (.inl hlt)

/-! ### Walks -/

/-- A walk comes to the nodes at the places in order. -/
theorem walk_eq_map_places (n : Node) : n.walk = n.places.map Place.node := by
  induction n using children_induction with
  | step n ih =>
    -- The walk does not look at the numbers of the children.
    have hchildren : n.children.flatMap walk =
        n.children.zipIdx.flatMap fun child => child.1.walk := by
      conv_lhs => rw [← List.zipIdx_map_fst 0 n.children, List.flatMap_map]
    rw [walk_eq, places_eq, List.map_cons, List.map_flatMap, hchildren]
    apply congrArg (n :: ·)
    apply List.flatMap_congr
    intro child hchild
    rw [ih child.1 (List.mem_of_getElem? (List.mem_zipIdx_iff_getElem?.1 hchild)), List.map_map]
    rfl

theorem mem_walk_iff : m ∈ n.walk ↔ ∃ address, n.nodeAt? address = some m := by
  rw [walk_eq_map_places, List.mem_map]
  constructor
  · rintro ⟨p, hp, rfl⟩
    exact ⟨p.address, mem_places_iff.1 hp⟩
  · rintro ⟨address, h⟩
    exact ⟨⟨address, m⟩, mem_places_iff.2 h, rfl⟩

theorem ofType_eq_map_places (n : Node) (type : NodeType) :
    n.ofType type = (n.places.filter (·.node.type == type)).map Place.node := by
  rw [ofType, walk_eq_map_places, List.filter_map]
  rfl

section Visit

variable {σ : Type}

mutual

/-- A walk that calls a function for a node and then for all its descendants. What the function
keeps from call to call is handed on. -/
def visit (f : σ → Node → σ) : Node → σ → σ
  | mk type span children value data, s =>
    visitAll f children (f s (mk type span children value data))

/-- Such a walk through several nodes. -/
def visitAll (f : σ → Node → σ) : List Node → σ → σ
  | [], s => s
  | n :: ns, s => visitAll f ns (visit f n s)

end

/-- A walk that calls a function for the nodes of a type. -/
def visitType (type : NodeType) (f : σ → Node → σ) (n : Node) (s : σ) : σ :=
  visit (fun s m => if m.type == type then f s m else s) n s

theorem visitAll_eq_foldl (f : σ → Node → σ) (ns : List Node) (s : σ) :
    visitAll f ns s = ns.foldl (fun s n => visit f n s) s := by
  induction ns generalizing s with
  | nil => rfl
  | cons n ns ih => rw [visitAll, ih, List.foldl_cons]

/-- The function is called for the nodes of the walk, one after the other. -/
theorem visit_eq_foldl (f : σ → Node → σ) (n : Node) (s : σ) :
    visit f n s = n.walk.foldl f s := by
  induction n using children_induction generalizing s with
  | step n ih =>
    have hvisit : visit f n s = visitAll f n.children (f s n) := by
      cases n
      rw [visit]
      rfl
    rw [hvisit, visitAll_eq_foldl, walk_eq, List.foldl_cons, List.foldl_flatMap]
    exact List.foldl_ext _ _ _ fun s child hchild => ih child hchild s

/-- The function is called for the nodes of the type, one after the other. -/
theorem visitType_eq_foldl (type : NodeType) (f : σ → Node → σ) (n : Node) (s : σ) :
    visitType type f n s = (n.ofType type).foldl f s := by
  rw [visitType, visit_eq_foldl, ofType, List.foldl_filter]

end Visit

/-! ### Spans -/

/-- A node whose span does not stop before it starts and holds its children one behind the other. -/
structure HoldsChildren (n : Node) : Prop where
  start_le_stop : n.span.start ≤ n.span.stop
  within : ∀ child ∈ n.children,
    n.span.start ≤ child.span.start ∧ child.span.stop ≤ n.span.stop
  inOrder : n.children.IsChain fun child next => child.span.stop ≤ next.span.start

instance (n : Node) : Decidable n.HoldsChildren :=
  decidable_of_iff
    (n.span.start ≤ n.span.stop ∧
      (∀ child ∈ n.children, n.span.start ≤ child.span.start ∧ child.span.stop ≤ n.span.stop) ∧
      n.children.IsChain fun child next => child.span.stop ≤ next.span.start)
    ⟨fun h => ⟨h.1, h.2.1, h.2.2⟩, fun h => ⟨h.start_le_stop, h.within, h.inOrder⟩⟩

/-- A tree in which every node holds its children. -/
def SpansNest (n : Node) : Prop :=
  ∀ address m, n.nodeAt? address = some m → m.HoldsChildren

/-- It is enough to look at the nodes of a walk. -/
theorem spansNest_iff_walk : n.SpansNest ↔ ∀ m ∈ n.walk, m.HoldsChildren := by
  simp only [SpansNest, mem_walk_iff, forall_exists_index]
  exact forall_comm

instance (n : Node) : Decidable n.SpansNest :=
  decidable_of_iff _ spansNest_iff_walk.symm

/-- A node stops before another one starts, and the other one does not stop before it starts.
Without the second part this would not be transitive. -/
def Precedes (a b : Node) : Prop :=
  a.span.stop ≤ b.span.start ∧ b.span.start ≤ b.span.stop

instance : Trans Precedes Precedes Precedes where
  trans h h' := ⟨Nat.le_trans h.1 (Nat.le_trans h.2 h'.1), h'.2⟩

namespace SpansNest

theorem holdsChildren (h : n.SpansNest) : n.HoldsChildren :=
  h [] n rfl

theorem child (h : n.SpansNest) (hm : m ∈ n.children) : m.SpansNest := by
  obtain ⟨number, hget⟩ := List.mem_iff_getElem?.1 hm
  intro address k hk
  exact h (number :: address) k (nodeAt?_cons_eq_some_iff.2 ⟨m, hget, hk⟩)

/-- Every node of the tree lies in the span of the root. -/
theorem within (h : n.SpansNest) (hm : n.nodeAt? address = some m) :
    n.span.start ≤ m.span.start ∧ m.span.start ≤ m.span.stop ∧ m.span.stop ≤ n.span.stop := by
  induction address generalizing n with
  | nil =>
    obtain rfl := Option.some.inj hm
    exact ⟨Nat.le_refl _, h.holdsChildren.start_le_stop, Nat.le_refl _⟩
  | cons number address ih =>
    obtain ⟨child, hget, hm⟩ := nodeAt?_cons_eq_some_iff.1 hm
    have hchild := List.mem_of_getElem? hget
    obtain ⟨hstart, hstop⟩ := h.holdsChildren.within child hchild
    obtain ⟨hstart', hm, hstop'⟩ := ih (h.child hchild) hm
    exact ⟨Nat.le_trans hstart hstart', hm, Nat.le_trans hstop' hstop⟩

/-- Each child stops before all later ones start, not only before the next one. -/
theorem pairwise_children (h : n.SpansNest) :
    n.children.Pairwise fun child later => child.span.stop ≤ later.span.start := by
  have hchain : n.children.IsChain Precedes := by
    refine h.holdsChildren.inOrder.imp_of_mem_imp ?_
    intro child next _ hnext hle
    exact ⟨hle, (h.child hnext).holdsChildren.start_le_stop⟩
  exact hchain.pairwise.imp And.left

/-- Of two places in a tree the earlier one stands above the other or stops before it. -/
theorem isPrefix_or_stop_le (h : n.SpansNest) {a b : Node} (ha : n.nodeAt? address = some a)
    (hb : n.nodeAt? address' = some b) (hlt : address < address') :
    address <+: address' ∨ a.span.stop ≤ b.span.start := by
  -- Both addresses are followed from the root until they part.
  induction address generalizing n address' with
  | nil => exact .inl List.nil_prefix
  | cons number address ih =>
    cases address' with
    | nil => exact absurd hlt (List.not_lt_nil _)
    | cons number' address' =>
      obtain ⟨child, hget, ha⟩ := nodeAt?_cons_eq_some_iff.1 ha
      obtain ⟨child', hget', hb⟩ := nodeAt?_cons_eq_some_iff.1 hb
      have hchild := List.mem_of_getElem? hget
      rcases List.cons_lt_cons_iff.1 hlt with hnumber | ⟨rfl, hrest⟩
      · -- The places are below different children, and these stand one behind the other.
        have hapart : child.span.stop ≤ child'.span.start := by
          obtain ⟨hi, rfl⟩ := List.getElem?_eq_some_iff.1 hget
          obtain ⟨hj, rfl⟩ := List.getElem?_eq_some_iff.1 hget'
          exact List.pairwise_iff_getElem.1 h.pairwise_children _ _ hi hj hnumber
        obtain ⟨-, -, hstop⟩ := (h.child hchild).within ha
        obtain ⟨hstart, -⟩ := (h.child (List.mem_of_getElem? hget')).within hb
        exact .inr (Nat.le_trans hstop (Nat.le_trans hapart hstart))
      · obtain rfl := Option.some.inj (hget.symm.trans hget')
        rcases ih (h.child hchild) ha hb hrest with habove | hle
        · exact .inl (List.cons_prefix_cons.2 ⟨rfl, habove⟩)
        · exact .inr hle

/-- What stands below a place does not start before it. -/
theorem start_le_of_isPrefix (h : n.SpansNest) {a b : Node} (ha : n.nodeAt? address = some a)
    (hb : n.nodeAt? address' = some b) (habove : address <+: address') :
    a.span.start ≤ b.span.start := by
  induction address generalizing n address' with
  | nil =>
    obtain rfl := Option.some.inj ha
    exact (h.within hb).1
  | cons number address ih =>
    obtain ⟨rest, rfl⟩ := habove
    obtain ⟨child, hget, ha⟩ := nodeAt?_cons_eq_some_iff.1 ha
    obtain ⟨child', hget', hb⟩ := nodeAt?_cons_eq_some_iff.1 hb
    obtain rfl := Option.some.inj (hget.symm.trans hget')
    exact ih (h.child (List.mem_of_getElem? hget)) ha hb (List.prefix_append address rest)

end SpansNest

/-! ### The order of a walk -/

/-- Places in the order in which a walk should come to them: each place of the tree once, and none
behind a place that it stands above. -/
structure InDocumentOrder (n : Node) (places : List Place) : Prop where
  mem_iff : ∀ p, p ∈ places ↔ n.nodeAt? p.address = some p.node
  nodup : (places.map Place.address).Nodup
  sorted : places.Pairwise fun p q => p.address < q.address
  aboveFirst : places.Pairwise fun p q => ¬ q.address <+: p.address

/-- Places in the order of their spans: no start goes back, and a place that does not stand above a
later one stops before it. -/
structure InSourceOrder (places : List Place) : Prop where
  starts : places.Pairwise fun p q => p.node.span.start ≤ q.node.span.start
  apart : places.Pairwise fun p q =>
    ¬ p.address <+: q.address → p.node.span.stop ≤ q.node.span.start

theorem inDocumentOrder_places (n : Node) : InDocumentOrder n n.places where
  mem_iff _ := mem_places_iff
  nodup := List.pairwise_map.2 ((pairwise_address_places n).imp fun hlt => ne_of_lt hlt)
  sorted := pairwise_address_places n
  aboveFirst := (pairwise_address_places n).imp fun hlt habove => habove.le hlt

/-- In a tree whose nodes hold their children the places are in the order of their spans. -/
theorem SpansNest.inSourceOrder_places (h : n.SpansNest) : InSourceOrder n.places := by
  -- A later place is below an earlier one, or the earlier one has stopped when it starts.
  have hcases : n.places.Pairwise fun p q =>
      p.node.span.start ≤ q.node.span.start ∧
        (p.address <+: q.address ∨ p.node.span.stop ≤ q.node.span.start) := by
    refine (pairwise_address_places n).imp_of_mem ?_
    intro p q hp hq hlt
    have hp := mem_places_iff.1 hp
    have hq := mem_places_iff.1 hq
    rcases h.isPrefix_or_stop_le hp hq hlt with habove | hle
    · exact ⟨h.start_le_of_isPrefix hp hq habove, .inl habove⟩
    · exact ⟨Nat.le_trans (h.within hp).2.1 hle, .inr hle⟩
  constructor
  · exact hcases.imp And.left
  · exact hcases.imp fun h hnot => h.2.resolve_left hnot

/-- A walk through a tree whose nodes hold their children comes to every place once, to what stands
above before what stands below, with starts that do not go back; and of two places of which neither
stands above the other the earlier one stops before the other starts. A walk for the nodes of a type
comes to the places of such nodes in the same order. So does a walk that calls a function. -/
theorem walk_in_source_order (h : n.SpansNest) :
    InDocumentOrder n n.places ∧ InSourceOrder n.places ∧
      n.walk = n.places.map Place.node ∧
      (∀ type, n.ofType type = (n.places.filter (·.node.type == type)).map Place.node) ∧
      ∀ (σ : Type) (f : σ → Node → σ) (s : σ),
        visit f n s = (n.places.map Place.node).foldl f s ∧
        ∀ type, visitType type f n s =
          ((n.places.filter (·.node.type == type)).map Place.node).foldl f s := by
  refine ⟨inDocumentOrder_places n, h.inSourceOrder_places, walk_eq_map_places n,
    ofType_eq_map_places n, ?_⟩
  intro σ f s
  constructor
  · rw [visit_eq_foldl, walk_eq_map_places]
  · intro type
    rw [visitType_eq_foldl, ofType_eq_map_places]

/-- A document with a paragraph of two literals, one that is emphasized between them and two equal
nodes behind them. -/
def emphasisDocument : Node :=
  .parent .document ⟨0, 16⟩ [.parent .paragraph ⟨0, 16⟩
    [.literal .str ⟨0, 5⟩ "hello", .parent .emphasis ⟨6, 10⟩ [.literal .str ⟨7, 9⟩ "my"],
      .literal .str ⟨11, 16⟩ "world", .leaf .html ⟨16, 16⟩, .leaf .html ⟨16, 16⟩]]

/-- The equal nodes stand at two places, and the walk comes to both of them. -/
theorem emphasisDocument_in_source_order :
    emphasisDocument.SpansNest ∧
      InDocumentOrder emphasisDocument emphasisDocument.places ∧
      InSourceOrder emphasisDocument.places ∧
      emphasisDocument.walk = emphasisDocument.places.map Place.node ∧
      emphasisDocument.places.map Place.address =
        [[], [0], [0, 0], [0, 1], [0, 1, 0], [0, 2], [0, 3], [0, 4]] ∧
      visitType .str (fun starts m => starts ++ [m.span.start]) emphasisDocument [] =
        [0, 7, 11] := by
  have hnest : emphasisDocument.SpansNest := by decide
  obtain ⟨hdocument, hsource, hwalk, -, hvisit⟩ := walk_in_source_order hnest
  refine ⟨hnest, hdocument, hsource, hwalk, rfl, ?_⟩
  rw [(hvisit _ _ _).2]
  rfl

end Node

/-! ### Plain texts -/

namespace PlainText

/-- The paragraphs of a plain text lie one behind the other in its document. -/
theorem holdsChildren_parse (text : List Char) : (parse text).HoldsChildren where
  start_le_stop := Nat.zero_le _
  within := by
    intro child hchild
    obtain ⟨span, hspan, rfl⟩ := List.mem_map.1 hchild
    exact ⟨Nat.zero_le _, (le_of_mem_paragraphs hspan).2⟩
  inOrder := by
    apply List.Pairwise.isChain
    exact List.pairwise_map.2 ((pairwise_paragraphs text).imp Nat.le_of_lt)

/-- In the document of a plain text every node holds its children. -/
theorem spansNest_parse (text : List Char) : (parse text).SpansNest := by
  rw [Node.spansNest_iff_walk, walk_parse, List.forall_mem_cons]
  refine ⟨holdsChildren_parse text, ?_⟩
  intro m hm
  obtain ⟨span, hspan, hm⟩ := List.mem_flatMap.1 hm
  have hle := Nat.le_of_lt (exists_slice?_of_mem_paragraphs hspan).1
  have hwalk : (paragraphNode text span).walk =
      [paragraphNode text span, literalNode text span] := rfl
  rw [hwalk, List.mem_pair] at hm
  rcases hm with rfl | rfl
  · -- The literal fills the paragraph.
    refine ⟨hle, ?_, .singleton _⟩
    intro child hchild
    obtain rfl := List.mem_singleton.1 hchild
    exact ⟨Nat.le_refl _, Nat.le_refl _⟩
  · exact ⟨hle, List.forall_mem_nil _, .nil⟩

end PlainText

end ProseLinter
