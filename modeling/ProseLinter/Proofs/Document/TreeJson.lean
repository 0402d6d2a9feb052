import Mathlib.Data.List.Forall2
import ProseLinter.Document.Node
import ProseLinter.Proofs.Json.Ordered

/-!
# The JSON form of a tree

A node is written with its type and its range, and with its children and its value if it has any.
That a key is absent says as much as what stands under one that is there, so a tree can be told from
its JSON form, but for the data of its nodes.

* `Node.SameButData` : trees that differ in nothing but their data.
* `Node.toJson_eq_object` : the fields of a node in order.
* `Node.json_determines_tree` : trees have one JSON form exactly if they differ in nothing but
  their data.
-/

namespace ProseLinter

namespace Node

variable {n m : Node}

/-- Two trees have the same node types, spans, values and children at every level. -/
inductive SameButData : Node → Node → Prop
  | node {type : NodeType} {span : Span} {children children' : List Node} {value : Option String}
      {data data' : NodeData} (h : List.Forall₂ SameButData children children') :
      SameButData (mk type span children value data) (mk type span children' value data')

theorem sameButData_iff :
    n.SameButData m ↔ n.type = m.type ∧ n.span = m.span ∧ n.value = m.value ∧
      List.Forall₂ SameButData n.children m.children := by
  constructor
  · rintro ⟨h⟩
    exact ⟨rfl, rfl, rfl, h⟩
  · intro h
    obtain ⟨type, span, children, value, data⟩ := n
    obtain ⟨type', span', children', value', data'⟩ := m
    obtain ⟨rfl, rfl, rfl, hchildren⟩ := h
    exact .node hchildren

/-! ### Fields -/

/-- The fields of a node in order: children and value only if there are any. -/
theorem toJson_eq_object (n : Node) :
    n.toJson = .object
      ((if n.children = [] then [] else [("children", Json.array (n.children.map toJson))]) ++
        [("range", .array [.ofNat n.span.start, .ofNat n.span.stop]),
          ("type", .string n.type.name)] ++
        (n.value.map fun text => ("value", Json.string text)).toList) := by
  obtain ⟨type, span, children, value, data⟩ := n
  have hrange : "range" < "type" := by decide
  have hchildren : "children" < "range" := by decide
  have hvalue : ¬ "value" < "children" ∧ ¬ "value" < "range" ∧ ¬ "value" < "type" := by decide
  cases children <;> cases value <;>
    simp only [toJson, Json.ofFields, Json.insertField, Node.type, Node.span, Node.children,
      Node.value, toJsonAll_eq_map, hrange, hchildren, hvalue, List.foldl_cons, List.foldl_nil,
      List.cons_append, List.nil_append, List.append_nil, List.map_cons, Option.map_none,
      Option.map_some, Option.toList_none, Option.toList_some, String.reduceBEq, reduceCtorEq,
      Bool.false_eq_true, if_true, if_false]

theorem field?_type (n : Node) : n.toJson.field? "type" = some (.string n.type.name) := by
  rw [toJson_eq_object]
  split <;> simp [Json.field?]

theorem field?_range (n : Node) :
    n.toJson.field? "range" = some (.array [.ofNat n.span.start, .ofNat n.span.stop]) := by
  rw [toJson_eq_object]
  split <;> simp [Json.field?]

/-- There are children in the JSON form exactly if there are any, so never an empty list. -/
theorem field?_children (n : Node) :
    n.toJson.field? "children" =
      if n.children = [] then none else some (.array (n.children.map toJson)) := by
  rw [toJson_eq_object]
  split <;> cases n.value <;> simp [Json.field?]

/-- There is a value in the JSON form exactly if there is one, be it empty. -/
theorem field?_value (n : Node) : n.toJson.field? "value" = n.value.map .string := by
  rw [toJson_eq_object]
  split <;> cases n.value <;> simp [Json.field?]

/-! ### Trees of one JSON form -/

theorem type_eq_of_toJson_eq (h : n.toJson = m.toJson) : n.type = m.type := by
  have hname := field?_type n
  rw [h, field?_type, Option.some.injEq, Json.string.injEq] at hname
  rw [← Option.some.injEq, ← NodeType.ofName?_name, ← NodeType.ofName?_name, hname]

theorem span_eq_of_toJson_eq (h : n.toJson = m.toJson) : n.span = m.span := by
  have hrange := field?_range n
  rw [h, field?_range] at hrange
  simp only [Option.some.injEq, Json.array.injEq, List.cons.injEq, Json.ofNat, Json.number.injEq,
    Number.int.injEq, Int.natCast_inj, and_true] at hrange
  obtain ⟨hstart, hstop⟩ := hrange
  cases hn : n.span
  cases hm : m.span
  simp_all

theorem value_eq_of_toJson_eq (h : n.toJson = m.toJson) : n.value = m.value := by
  have hvalue := field?_value n
  rw [h, field?_value] at hvalue
  exact (Option.map_injective (fun _ _ => Json.string.inj) hvalue).symm

/-- The children have the same JSON forms, one by one. -/
theorem map_children_eq_of_toJson_eq (h : n.toJson = m.toJson) :
    n.children.map toJson = m.children.map toJson := by
  have hchildren := field?_children n
  rw [h, field?_children] at hchildren
  -- A childless node has no such field, and any other has one.
  split at hchildren <;> split at hchildren
  · simp_all
  · cases hchildren
  · cases hchildren
  · exact (Json.array.inj (Option.some.inj hchildren)).symm

/-- What is written of a node follows from its type, span and value and from what is written of its
children. -/
theorem toJson_congr (htype : n.type = m.type) (hspan : n.span = m.span)
    (hvalue : n.value = m.value) (hchildren : n.children.map toJson = m.children.map toJson) :
    n.toJson = m.toJson := by
  have hnil : n.children = [] ↔ m.children = [] := by
    rw [← List.map_eq_nil_iff, hchildren, List.map_eq_nil_iff]
  rw [toJson_eq_object, toJson_eq_object, htype, hspan, hvalue, hchildren]
  simp only [hnil]

theorem toJson_eq_iff : n.toJson = m.toJson ↔ n.SameButData m := by
  induction n using children_induction generalizing m with
  | step n ih =>
    have hchildren : n.children.map toJson = m.children.map toJson ↔
        List.Forall₂ SameButData n.children m.children := by
      rw [← List.forall₂_eq_eq_eq, List.forall₂_map_left_iff, List.forall₂_map_right_iff]
      have hforms (R : Node → Node → Prop) (h : List.Forall₂ R n.children m.children) :=
        (List.forall₂_and_left n.children m.children).2 ⟨fun c hc d => ih c hc (m := d), h⟩
      exact ⟨fun h => (hforms _ h).imp fun c d h => (h.1 d).1 h.2,
        fun h => (hforms _ h).imp fun c d h => (h.1 d).2 h.2⟩
    rw [sameButData_iff, ← hchildren]
    constructor
    · intro h
      exact ⟨type_eq_of_toJson_eq h, span_eq_of_toJson_eq h, value_eq_of_toJson_eq h,
        map_children_eq_of_toJson_eq h⟩
    · rintro ⟨htype, hspan, hvalue, hmap⟩
      exact toJson_congr htype hspan hvalue hmap

/-- Two trees have one JSON form exactly if they have the same node types, spans, values and
children at every level. In the form of each tree the children are absent if there are none and are
never an empty list, and the value is absent if there is none and an empty text if it is empty. -/
theorem json_determines_tree (t u : Node) :
    (t.toJson = u.toJson ↔ t.SameButData u) ∧
      (t.toJson.field? "children" = none ↔ t.children = []) ∧
      t.toJson.field? "children" ≠ some (.array []) ∧
      (t.toJson.field? "value" = none ↔ t.value = none) ∧
      (t.toJson.field? "value" = some (.string "") ↔ t.value = some "") := by
  refine ⟨toJson_eq_iff, ?_, ?_, ?_, ?_⟩
  · simp [field?_children]
  · rw [field?_children]
    split
    · simp
    · next hne => simpa using hne
  · simp [field?_value]
  · simp [field?_value]

end Node

end ProseLinter
