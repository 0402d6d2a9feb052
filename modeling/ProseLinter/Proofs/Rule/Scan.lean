import Mathlib.Data.List.Flatten
import Mathlib.Data.List.Forall2
import ProseLinter.Proofs.Rule.Search

/-!
# What a scan reports

A scan searches the nodes of a type one by one, in the part of the source that each of them spans.
What is known of the matches in a text is thereby known of the messages for a document.

* `Node.slice?_of_raw` : a part of the source of a node is a part of the source.
* `Rule.Context.IsAbout` : what the message for a match says of its place.
* `Rule.Context.forall₂_messages_scan` : the messages of a scan, one for each place at which the
  search has a match.
* `Rule.Context.map_scan_sublist` : a search that finds less makes a scan that reports less.
-/

namespace ProseLinter

open Text
open scoped List

/-- A part of the source of a node that is not empty is a part of the source. -/
theorem Node.slice?_of_raw {node : Node} {source part : List Char} {start stop : Nat}
    (h : slice? (node.raw source) start stop = some part) (hne : part ≠ []) :
    slice? source (node.span.start + start) (node.span.start + stop) = some part := by
  rw [Node.raw] at h
  cases hraw : slice? source node.span.start node.span.stop with
  | some raw =>
    rw [hraw, Option.getD_some] at h
    exact slice?_of_slice? hraw h
  | none =>
    -- A node whose span does not fit the source has nothing in it.
    rw [hraw, Option.getD_none] at h
    obtain ⟨before, after, hnil, -, -⟩ := slice?_eq_some_iff.1 h
    exact absurd (List.append_eq_nil_iff.1 (List.append_eq_nil_iff.1 hnil.symm).1).2 hne

namespace Rule.Context

variable {c : Context} {type : NodeType} {search : List Char → List Match}

/-- The context of a rule with other options. -/
def withOptions (c : Context) (options : Json) : Context :=
  { c with options }

/-- A message about a part of a node: its span is that of the part, and its line and column are
those at which the part starts. -/
structure IsAbout (c : Context) (place : Node × Piece) (message : Message) : Prop where
  span_eq : message.span =
    ⟨place.1.span.start + place.2.start, place.1.span.start + place.2.stop⟩
  slice?_eq : place.2.chars ≠ [] →
    slice? c.source message.span.start message.span.stop = some place.2.chars
  position_eq : c.lines.position message.span.start = ⟨message.line, message.column⟩
  ruleId_eq : message.ruleId = c.ruleId

/-- The span of the message for a match: from where the match starts in the node to where it
stops. -/
theorem span_message_finding (m : Match) (node : Node) :
    (c.message (m.finding node)).span =
      ⟨node.span.start + m.start, node.span.start + (m.start + byteLength m.chars)⟩ := by
  show node.span.part m.start (byteLength m.chars) = _
  rw [Span.part, Nat.add_assoc]

/-- The message for a match is about what is matched. -/
theorem isAbout_message_finding {m : Match} {node : Node}
    (h : m.ReadsIn (node.raw c.source)) :
    c.IsAbout (node, ⟨m.start, m.chars⟩) (c.message (m.finding node)) where
  span_eq := span_message_finding m node
  slice?_eq hne := by
    rw [span_message_finding]
    exact Node.slice?_of_raw h hne
  position_eq := rfl
  ruleId_eq := rfl

/-- Where a search has a match for each of some places in a text, a scan has a message for each of
them in each node. -/
theorem forall₂_messages_scan {α : Type} {places : List Char → List α} {toMatch : α → Match}
    (hsearch : ∀ text, search text = (places text).map toMatch)
    {IsMessage : Node × α → Message → Prop}
    (hmessage : ∀ node, ∀ place ∈ places (node.raw c.source),
      IsMessage (node, place) (c.message ((toMatch place).finding node))) :
    List.Forall₂ IsMessage
      ((c.document.ofType type).flatMap fun node => (places (node.raw c.source)).map (node, ·))
      ((c.scan type search).map c.message) := by
  rw [scan, List.map_flatMap]
  refine List.rel_flatMap (List.forall₂_same.2 fun _ _ => rfl) ?_
  rintro node _ rfl
  beta_reduce
  rw [hsearch, List.map_map, List.map_map, List.forall₂_map_left_iff, List.forall₂_map_right_iff,
    List.forall₂_same]
  exact hmessage node

/-- Where a search finds less than another, a scan reports less. What is compared may be a part of
what they have to say, such as the offsets. -/
theorem map_scan_sublist {α β : Type} {search' : List Char → List Match}
    {view : Finding → β} (place : Match → α) (place' : Node → α → β)
    (hview : ∀ node m, view (m.finding node) = place' node (place m))
    (hsearch : ∀ text, (search' text).map place <+ (search text).map place) :
    (c.scan type search').map view <+ (c.scan type search).map view := by
  rw [scan, scan, List.map_flatMap, List.map_flatMap]
  refine List.Sublist.flatMap_right _ fun node _ => ?_
  have hmap (search : List Char → List Match) :
      ((search (node.raw c.source)).map (·.finding node)).map view =
        ((search (node.raw c.source)).map place).map (place' node) := by
    rw [List.map_map, List.map_map]
    exact List.map_congr_left fun m _ => hview node m
  rw [hmap, hmap]
  exact (hsearch _).map _

end Rule.Context

end ProseLinter
