import Mathlib.Tactic.SplitIfs
import ProseLinter.Files.Path

/-!
# Components of paths

What a path is depends on its components only. Putting a name behind a path adds a component at the
end, and the path above takes the last one away, whatever slashes and dots the path is written with.

* `Path.components_join_relative` and `Path.components_join` : a relative path, and a name, behind a
  path.
* `Path.exists_parent?` : the path above one that ends in a name.
* `Path.not_mem_of_fileName?` : no file name has a slash.
-/

namespace ProseLinter

namespace Text

/-- Cutting a text at separators is what the library does under that name. -/
theorem splitOn_eq_splitOn (separator : Char) (cs : List Char) :
    splitOn separator cs = cs.splitOn separator := by
  have h := List.splitOn_intercalate separator (fun _ => not_mem_of_mem_splitOn)
    (splitOn_ne_nil separator cs)
  rw [intercalate_splitOn] at h
  exact h.symm

theorem splitOn_append_cons (separator : Char) (cs ds : List Char) :
    splitOn separator (cs ++ separator :: ds) = splitOn separator cs ++ splitOn separator ds := by
  simp only [splitOn_eq_splitOn, List.splitOn_append_cons_self]

/-- What is put in front of a text without a separator belongs to the first part. -/
theorem exists_splitOn_append_left {separator : Char} {lead : List Char} (h : separator ∉ lead)
    (cs : List Char) : ∃ first rest,
      splitOn separator cs = first :: rest ∧
        splitOn separator (lead ++ cs) = (lead ++ first) :: rest := by
  induction lead with
  | nil =>
    obtain ⟨first, rest, hparts⟩ := List.exists_cons_of_ne_nil (splitOn_ne_nil separator cs)
    exact ⟨first, rest, hparts, hparts⟩
  | cons c lead ih =>
    rw [List.mem_cons, not_or] at h
    obtain ⟨first, rest, hparts, hlead⟩ := ih h.2
    refine ⟨first, rest, hparts, ?_⟩
    rw [List.cons_append, splitOn, if_neg (by simpa using Ne.symm h.1), hlead, List.cons_append]

/-- What is put behind a text without a separator belongs to the last part. -/
theorem exists_splitOn_append_right {separator : Char} {back : List Char} (h : separator ∉ back)
    (cs : List Char) : ∃ front last,
      splitOn separator cs = front ++ [last] ∧
        splitOn separator (cs ++ back) = front ++ [last ++ back] := by
  induction cs with
  | nil => exact ⟨[], [], rfl, splitOn_eq_singleton h⟩
  | cons c cs ih =>
    obtain ⟨front, last, hparts, hback⟩ := ih
    rw [List.cons_append, splitOn, splitOn, hparts, hback]
    split
    · exact ⟨[] :: front, last, rfl, rfl⟩
    · -- The character belongs to the part that is now the first, which may be the last as well.
      cases front with
      | nil => exact ⟨[], c :: last, rfl, rfl⟩
      | cons first front => exact ⟨(c :: first) :: front, last, rfl, rfl⟩

end Text

namespace Path

/-- A name that stands for a component of its own. -/
structure IsName (name : String) : Prop where
  noSlash : '/' ∉ name.toList
  componentOf?_eq : componentOf? name = some (.normal name)

theorem isName_iff {name : String} :
    IsName name ↔ '/' ∉ name.toList ∧ name ≠ "" ∧ name ≠ "." ∧ name ≠ ".." := by
  constructor
  · rintro ⟨hslash, hcomponent⟩
    refine ⟨hslash, ?_, ?_, ?_⟩ <;> rintro rfl <;> simp [componentOf?] at hcomponent
  · rintro ⟨hslash, hempty, hdot, hdots⟩
    exact ⟨hslash, by simp [componentOf?, hempty, hdot, hdots]⟩

/-- A text behind a name makes another name. -/
theorem IsName.append {name text : String} (h : IsName name) (htext : '/' ∉ text.toList) :
    IsName (name ++ text) := by
  obtain ⟨hslash, hempty, hdot, hdots⟩ := isName_iff.1 h
  refine isName_iff.2 ⟨?_, ?_, ?_, ?_⟩
  · rw [String.toList_append, List.mem_append]
    exact not_or_intro hslash htext
  all_goals
    rw [Ne, ← String.toList_inj] at hempty hdot hdots ⊢
    rw [String.toList_append]
    cases hname : name.toList with
    | nil => exact absurd hname hempty
    | cons c cs => cases cs <;> simp_all

/-- A part that stands for a name stands for itself. -/
theorem eq_of_componentOf?_eq_normal {part name : String}
    (h : componentOf? part = some (.normal name)) : part = name := by
  rw [componentOf?] at h
  split_ifs at h
  · cases h
  · exact Component.normal.inj (Option.some.inj h)

/-! ### Parts -/

theorem parts_ne_nil (p : Path) : p.parts ≠ [] := by
  rw [parts, Ne, List.map_eq_nil_iff]
  exact Text.splitOn_ne_nil '/' p.text.toList

/-- No part has a slash. -/
theorem not_mem_of_mem_parts {p : Path} {part : String} (h : part ∈ p.parts) :
    '/' ∉ part.toList := by
  obtain ⟨cs, hcs, rfl⟩ := List.mem_map.1 h
  rw [String.toList_ofList]
  exact Text.not_mem_of_mem_splitOn hcs

/-- A path is its parts with slashes between. -/
theorem text_eq_intercalate (p : Path) : p.text = String.intercalate "/" p.parts := by
  rw [← String.toList_inj, String.toList_intercalate, parts, List.map_map]
  have hparts : (String.toList ∘ String.ofList) = id := by
    funext cs
    exact String.toList_ofList
  rw [hparts, List.map_id]
  exact (Text.intercalate_splitOn '/' p.text.toList).symm

/-- Parts without slashes are those of the path that they make. -/
theorem parts_intercalate {parts : List String} (hne : parts ≠ [])
    (h : ∀ part ∈ parts, '/' ∉ part.toList) :
    (Path.mk (String.intercalate "/" parts)).parts = parts := by
  have hslash : ∀ cs ∈ parts.map String.toList, '/' ∉ cs := by
    intro cs hcs
    obtain ⟨part, hpart, rfl⟩ := List.mem_map.1 hcs
    exact h part hpart
  have hsplit := List.splitOn_intercalate '/' hslash (by simpa using hne)
  rw [Path.parts, Text.splitOn_eq_splitOn, String.toList_intercalate]
  rw [show ("/" : String).toList = ['/'] from rfl, hsplit, List.map_map]
  simp [Function.comp_def]

/-- A path starts at the root when a slash follows its first part and that is empty. -/
theorem isAbsolute_of_parts {p : Path} {first : String} {rest : List String}
    (h : p.parts = first :: rest) : p.isAbsolute = (first == "" && !rest.isEmpty) := by
  rw [parts] at h
  rw [isAbsolute]
  cases htext : p.text.toList with
  | nil =>
    rw [htext, Text.splitOn] at h
    obtain ⟨rfl, rfl⟩ := List.cons.inj h
    rfl
  | cons c cs =>
    rw [htext, Text.splitOn] at h
    have hne := Text.splitOn_ne_nil '/' cs
    split at h
    · next hc =>
      obtain ⟨rfl, rfl⟩ := List.cons.inj h
      rw [eq_of_beq hc]
      cases hcs : Text.splitOn '/' cs with
      | nil => exact absurd hcs hne
      | cons part parts => rfl
    · next hc =>
      cases hcs : Text.splitOn '/' cs with
      | nil => exact absurd hcs hne
      | cons part parts =>
        rw [hcs] at h
        obtain ⟨rfl, -⟩ := List.cons.inj h
        have hfirst : (String.ofList (c :: part) == "") = false := by
          rw [beq_eq_false_iff_ne, Ne, ← String.toList_inj, String.toList_ofList]
          exact List.cons_ne_nil c part
        rw [hfirst, Bool.false_and]
        simpa using hc

/-- The components that the first part stands for; behind an empty one the root begins. -/
def head (first : String) (rest : List String) : List Component :=
  if first = "" ∧ rest ≠ [] then [.root]
  else if first = "." then [.current]
  else (componentOf? first).toList

theorem components_of_parts {p : Path} {first : String} {rest : List String}
    (h : p.parts = first :: rest) :
    p.components = head first rest ++ rest.filterMap componentOf? := by
  rw [components, h]
  simp only [isAbsolute_of_parts h, head]
  cases rest <;> simp

/-! ### Joining -/

/-- What a first part stands for depends on whether another follows, if it is empty. -/
theorem head_congr {first : String} (rest rest' : List String)
    (h : first = "" → (rest = [] ↔ rest' = [])) : head first rest = head first rest' := by
  by_cases hfirst : first = ""
  · simp [head, h hfirst]
  · simp [head, hfirst]

/-- A name stands for the same component at the start of a path as elsewhere. -/
theorem head_of_isName {name : String} (h : IsName name) (rest : List String) :
    head name rest = [.normal name] := by
  obtain ⟨-, hempty, hdot, -⟩ := isName_iff.1 h
  rw [head, if_neg (by simp [hempty]), if_neg hdot, h.componentOf?_eq]
  rfl

/-- A name does not start at the root. -/
theorem isAbsolute_of_isName {name : String} (h : IsName name) :
    (Path.mk name).isAbsolute = false := by
  cases hname : name.toList with
  | nil => simp [isAbsolute, hname]
  | cons c cs =>
    have hc : c ≠ '/' := by
      rintro rfl
      exact h.noSlash (by rw [hname]; exact List.mem_cons_self)
    simp [isAbsolute, hname, hc]

theorem parts_of_not_mem {name : String} (h : '/' ∉ name.toList) :
    (Path.mk name).parts = [name] := by
  rw [parts, Text.splitOn_eq_singleton h]
  simp

/-- The parts of a path with a relative one behind it: its parts take the place of an empty last
part. -/
theorem parts_join {p q : Path} (hp : p.text ≠ "") (hq : q.isAbsolute = false) :
    ∃ front, (p.join q).parts = front ++ q.parts ∧ front ≠ [] ∧
      (p.parts = front ++ [""] ∨ p.parts = front) := by
  rw [join, hq]
  simp only [Bool.false_eq_true, if_false, beq_iff_eq, hp]
  split
  · next hslash =>
    obtain ⟨before, hbefore⟩ := List.getLast?_eq_some_iff.1 hslash
    refine ⟨(Text.splitOn '/' before).map String.ofList, ?_, ?_, .inl ?_⟩
    · rw [parts, parts, String.toList_append, hbefore, List.append_assoc, List.singleton_append,
        Text.splitOn_append_cons, List.map_append]
    · simpa using Text.splitOn_ne_nil '/' before
    · rw [parts, hbefore, Text.splitOn_append_cons, List.map_append]
      rfl
  · refine ⟨p.parts, ?_, p.parts_ne_nil, .inr rfl⟩
    rw [parts, String.toList_append, String.toList_append, List.append_assoc]
    exact (congrArg _ (Text.splitOn_append_cons '/' p.text.toList q.text.toList)).trans (by
      rw [List.map_append, parts, parts])

/-- A relative path behind another adds what its parts stand for. -/
theorem components_join_relative {p q : Path} (hp : p.text ≠ "") (hq : q.isAbsolute = false) :
    (p.join q).components = p.components ++ q.parts.filterMap componentOf? := by
  obtain ⟨front, hjoined, hfront, hparts⟩ := parts_join hp hq
  obtain ⟨first, rest, rfl⟩ := List.exists_cons_of_ne_nil hfront
  rw [List.cons_append] at hjoined hparts
  rw [components_of_parts hjoined, List.filterMap_append, ← List.append_assoc]
  congr 1
  rcases hparts with hparts | hparts
  · rw [components_of_parts hparts, List.filterMap_append,
      head_congr (rest ++ q.parts) (rest ++ [""])]
    · simp [componentOf?]
    · simp [q.parts_ne_nil]
  · rw [components_of_parts hparts, head_congr (rest ++ q.parts) rest]
    -- An empty part is alone only in the empty path.
    rintro rfl
    have hrest : rest ≠ [] := by
      rintro rfl
      exact hp (by rw [text_eq_intercalate, hparts]; rfl)
    simp [hrest]

/-- Behind the empty path a path stays as it is. -/
theorem join_of_text_eq_empty {p : Path} (hp : p.text = "") (q : Path) : p.join q = q := by
  rw [join]
  split <;> simp [hp]

/-- A name behind a path adds a component. -/
theorem components_join (p : Path) {name : String} (h : IsName name) :
    (p.join ⟨name⟩).components = p.components ++ [.normal name] := by
  have hparts := parts_of_not_mem h.noSlash
  by_cases hp : p.text = ""
  · obtain rfl : p = ⟨""⟩ := congrArg Path.mk hp
    rw [join_of_text_eq_empty rfl, components_of_parts hparts, head_of_isName h]
    rfl
  · rw [components_join_relative hp (isAbsolute_of_isName h), hparts]
    simp [h.componentOf?_eq]

/-! ### The path above -/

/-- Parts that stand for no component can be left out. -/
theorem filterMap_dropWhile_isIdle (parts : List String) :
    (parts.dropWhile isIdle).reverse.filterMap componentOf? =
      parts.reverse.filterMap componentOf? := by
  induction parts with
  | nil => rfl
  | cons part parts ih =>
    rw [List.dropWhile_cons]
    split
    · next hidle =>
      have hnone : componentOf? part = none := by simpa [isIdle] using hidle
      rw [ih, List.reverse_cons, List.filterMap_append]
      simp [hnone]
    · rfl

/-- The path above one of which only the first part stands for a component. -/
theorem parent?_of_eq_nil {p : Path} {first : String} {rest : List String}
    (hparts : p.parts = first :: rest) (h : rest.reverse.dropWhile isIdle = []) :
    p.parent? = if p.isAbsolute || first == "" then none else some ⟨""⟩ := by
  rw [parent?, hparts]
  simp [h]

/-- The path above one of which a part behind the first one is the last that stands for a
component. -/
theorem parent?_of_eq_cons {p : Path} {first last : String} {rest kept : List String}
    (hparts : p.parts = first :: rest) (h : rest.reverse.dropWhile isIdle = last :: kept) :
    p.parent? =
      if p.isAbsolute && (kept.dropWhile isIdle).reverse.isEmpty then some ⟨"/"⟩
      else some ⟨String.intercalate "/" (first :: (kept.dropWhile isIdle).reverse)⟩ := by
  rw [parent?, hparts]
  simp [h]

/-- A first part that stands for a name at the end stands for nothing else. -/
theorem eq_nil_of_head_eq {first name : String} {rest : List String} {before : List Component}
    (h : head first rest = before ++ [.normal name]) : before = [] ∧ first ≠ "" := by
  rw [head] at h
  split_ifs at h
  · cases before <;> simp at h
  · cases before <;> simp at h
  · cases before with
    | nil =>
      refine ⟨rfl, ?_⟩
      rintro rfl
      simp [componentOf?] at h
    | cons c before => cases hc : componentOf? first <;> simp [hc] at h

/-- The components of some of the parts of a path, of which the first stands for the same as it does
before the others. -/
theorem components_intercalate {first : String} {front rest : List String} (hrest : rest ≠ [])
    (hroot : ¬ (first = "" ∧ front = [])) (hslash : ∀ part ∈ first :: front, '/' ∉ part.toList) :
    (Path.mk (String.intercalate "/" (first :: front))).components =
      head first rest ++ front.filterMap componentOf? := by
  rw [components_of_parts (parts_intercalate (List.cons_ne_nil first front) hslash),
    head_congr front rest]
  intro hempty
  exact iff_of_false (fun hnil => hroot ⟨hempty, hnil⟩) hrest

/-- The path above one that ends in a name has the components before. -/
theorem exists_parent? {p : Path} {before : List Component} {name : String}
    (h : p.components = before ++ [.normal name]) :
    ∃ q, p.parent? = some q ∧ q.components = before := by
  obtain ⟨first, rest, hparts⟩ := List.exists_cons_of_ne_nil p.parts_ne_nil
  rw [components_of_parts hparts] at h
  have hidle := filterMap_dropWhile_isIdle rest.reverse
  rw [List.reverse_reverse] at hidle
  -- The last component stands in the last part that is not idle, or in the first part.
  cases hkept : rest.reverse.dropWhile isIdle with
  | nil =>
    rw [hkept] at hidle
    rw [← hidle, List.reverse_nil, List.filterMap_nil, List.append_nil] at h
    obtain ⟨rfl, hfirst⟩ := eq_nil_of_head_eq h
    refine ⟨⟨""⟩, ?_, rfl⟩
    rw [parent?_of_eq_nil hparts hkept, isAbsolute_of_parts hparts]
    simp [hfirst]
  | cons last kept =>
    obtain ⟨c, hlast⟩ : ∃ c, componentOf? last = some c := by
      have hhead := List.head?_dropWhile_not isIdle rest.reverse
      rw [hkept] at hhead
      exact Option.isSome_iff_exists.1 (by simpa [isIdle] using hhead)
    rw [hkept, List.reverse_cons, List.filterMap_append, List.filterMap_cons_some hlast] at hidle
    rw [← hidle, ← List.append_assoc] at h
    obtain ⟨rfl, -⟩ := List.append_singleton_inj.1 h
    rw [← filterMap_dropWhile_isIdle kept, parent?_of_eq_cons hparts hkept,
      isAbsolute_of_parts hparts]
    have hrest : rest ≠ [] := by
      rintro rfl
      simp at hkept
    have hfront : ∀ part ∈ (kept.dropWhile isIdle).reverse, part ∈ rest := by
      intro part hpart
      have hmem : part ∈ rest.reverse.dropWhile isIdle := by
        rw [hkept]
        exact List.mem_cons_of_mem last (List.dropWhile_subset isIdle (List.mem_reverse.1 hpart))
      exact List.mem_reverse.1 (List.dropWhile_subset isIdle hmem)
    generalize (kept.dropWhile isIdle).reverse = front at hfront
    -- Above a name right below the root there is the root, which is not written as one part.
    by_cases hroot : first = "" ∧ front = []
    · obtain ⟨rfl, rfl⟩ := hroot
      refine ⟨⟨"/"⟩, by simp [hrest], ?_⟩
      rw [head, if_pos ⟨rfl, hrest⟩]
      rfl
    · refine ⟨⟨String.intercalate "/" (first :: front)⟩, if_neg ?_, ?_⟩
      · intro hslash
        simp only [Bool.and_eq_true, beq_iff_eq, List.isEmpty_iff] at hslash
        exact hroot ⟨hslash.1.1, hslash.2⟩
      · refine components_intercalate hrest hroot fun part hpart => not_mem_of_mem_parts (p := p) ?_
        rw [hparts]
        exact (List.mem_cons.1 hpart).elim (fun h => h ▸ List.mem_cons_self)
          fun h => List.mem_cons_of_mem first (hfront part h)

/-! ### File names -/

theorem fileName?_of_components {p : Path} {before : List Component} {name : String}
    (h : p.components = before ++ [.normal name]) : p.fileName? = some name := by
  rw [fileName?, h, List.getLast?_concat]

/-- No file name has a slash. -/
theorem not_mem_of_fileName? {p : Path} {name : String} (h : p.fileName? = some name) :
    '/' ∉ name.toList := by
  obtain ⟨first, rest, hparts⟩ := List.exists_cons_of_ne_nil p.parts_ne_nil
  have hmem : .normal name ∈ p.components := by
    rw [fileName?] at h
    split at h
    · next last hlast =>
      obtain rfl := Option.some.inj h
      exact List.mem_of_getLast? hlast
    · cases h
  rw [components_of_parts hparts, List.mem_append, List.mem_filterMap] at hmem
  obtain ⟨part, hpart, hname⟩ : ∃ part ∈ p.parts, componentOf? part = some (.normal name) := by
    rw [hparts]
    rcases hmem with hmem | ⟨part, hpart, hname⟩
    · refine ⟨first, List.mem_cons_self, ?_⟩
      rw [head] at hmem
      split_ifs at hmem
      · simp at hmem
      · simp at hmem
      · simpa using hmem
    · exact ⟨part, List.mem_cons_of_mem first hpart, hname⟩
  rw [← eq_of_componentOf?_eq_normal hname]
  exact not_mem_of_mem_parts hpart

end Path

end ProseLinter
