import ProseLinter.Files.FileTree
import ProseLinter.Proofs.Files.Path

/-!
# Paths below a directory

A path is below a directory when its components are those of the directory and behind them only
names: it never goes back up and never starts at the root again. In a tree without links such a path
leads to a place inside the directory.

* `Path.below_join` : a relative path without two dots, put behind a directory.
* `FileTree.resolve_eq_walk` : where a path leads, if it leads anywhere, follows from its
  components.
* `FileTree.isPrefix_of_below` : a path below a directory leads to a place inside it.
* `FileTree.SameAt` : trees in which a path leads to the same place and the same content.
-/

namespace ProseLinter

namespace Path

variable {p q dir : Path}

/-- The components of a path are those of a directory and then only names. -/
def Below (p dir : Path) : Prop :=
  ∃ names : List String, p.components = dir.components ++ names.map .normal

theorem Below.refl (p : Path) : p.Below p :=
  ⟨[], by simp⟩

theorem Below.trans {above : Path} (h : p.Below dir) (h' : dir.Below above) : p.Below above := by
  obtain ⟨names, hp⟩ := h
  obtain ⟨names', hdir⟩ := h'
  exact ⟨names' ++ names, by rw [hp, hdir, List.map_append, List.append_assoc]⟩

theorem below_join_of_isName (dir : Path) {name : String} (h : IsName name) :
    (dir.join ⟨name⟩).Below dir :=
  ⟨[name], components_join dir h⟩

/-! ### Parts without two dots -/

theorem componentOf?_eq_parent_iff {part : String} :
    componentOf? part = some .parent ↔ part = ".." := by
  constructor
  · intro h
    rw [componentOf?] at h
    split_ifs at h with hidle hdots
    · simpa using hdots
    · cases h
  · rintro rfl
    simp [componentOf?]

/-- Parts none of which is two dots stand for names. -/
theorem exists_filterMap_componentOf?_eq {parts : List String} (h : ".." ∉ parts) :
    ∃ names : List String, parts.filterMap componentOf? = names.map .normal := by
  induction parts with
  | nil => exact ⟨[], rfl⟩
  | cons part parts ih =>
    rw [List.mem_cons, not_or] at h
    obtain ⟨names, hnames⟩ := ih h.2
    by_cases hidle : componentOf? part = none
    · exact ⟨names, by rw [List.filterMap_cons_none hidle, hnames]⟩
    · -- A part that stands for something and is not two dots is a name.
      have hname : componentOf? part = some (.normal part) := by
        rw [componentOf?] at hidle ⊢
        split_ifs at hidle ⊢ with hempty hdots
        · exact absurd rfl hidle
        · exact absurd (by simpa using hdots) (Ne.symm h.1)
        · rfl
      exact ⟨part :: names, by rw [List.filterMap_cons_some hname, hnames, List.map_cons]⟩

/-- A relative path is what its parts stand for, behind the dot that it may start with. -/
theorem components_of_relative {first : String} {rest : List String}
    (hparts : q.parts = first :: rest) (hq : q.isAbsolute = false) :
    q.components = (if first = "." then [.current] else []) ++ q.parts.filterMap componentOf? := by
  have hroot : ¬ (first = "" ∧ rest ≠ []) := by
    rw [isAbsolute_of_parts hparts] at hq
    simpa using hq
  rw [components_of_parts hparts, hparts, head, if_neg hroot]
  split_ifs with hdot
  · simp [hdot, componentOf?]
  · cases hcomponent : componentOf? first with
    | none => simp [hcomponent]
    | some c => simp [hcomponent]

/-- A relative path has two dots among its parts only if they are among its components. -/
theorem not_mem_parts_of_not_mem_components (hq : q.isAbsolute = false)
    (h : .parent ∉ q.components) : ".." ∉ q.parts := by
  intro hdots
  obtain ⟨first, rest, hparts⟩ := List.exists_cons_of_ne_nil q.parts_ne_nil
  apply h
  rw [components_of_relative hparts hq, List.mem_append]
  exact .inr (List.mem_filterMap.2 ⟨"..", hdots, componentOf?_eq_parent_iff.2 rfl⟩)

/-- A relative path without two dots, put behind a directory, is below it. Only behind the empty
path it may start with a dot, and then it is below the dot, which is the same directory. -/
theorem below_join (dir : Path) (hq : q.isAbsolute = false) (h : ".." ∉ q.parts) :
    (dir.join q).Below dir ∨
      dir.text = "" ∧ q.parts.head? = some "." ∧ (dir.join q).Below ⟨"."⟩ := by
  obtain ⟨names, hnames⟩ := exists_filterMap_componentOf?_eq h
  by_cases hdir : dir.text = ""
  · -- Nothing is put in front, so the path stays as it is.
    obtain rfl : dir = ⟨""⟩ := congrArg Path.mk hdir
    obtain ⟨first, rest, hparts⟩ := List.exists_cons_of_ne_nil q.parts_ne_nil
    have hcomponents := components_of_relative hparts hq
    rw [hnames] at hcomponents
    rw [join_of_text_eq_empty rfl]
    by_cases hdot : first = "."
    · rw [if_pos hdot] at hcomponents
      exact .inr ⟨rfl, by rw [hparts, hdot, List.head?_cons], names, hcomponents⟩
    · rw [if_neg hdot] at hcomponents
      exact .inl ⟨names, hcomponents⟩
  · exact .inl ⟨names, by rw [components_join_relative hdir hq, hnames]⟩

/-! ### Paths that only go down -/

/-- A relative path that has no two dots and does not start with one. -/
structure Descends (q : Path) : Prop where
  isAbsolute_eq : q.isAbsolute = false
  noDots : ".." ∉ q.parts
  head?_ne : q.parts.head? ≠ some "."

/-- Put behind a directory such a path is below it. -/
theorem Descends.below_join (h : q.Descends) (dir : Path) : (dir.join q).Below dir := by
  rcases Path.below_join dir h.isAbsolute_eq h.noDots with hbelow | ⟨-, hdot, -⟩
  · exact hbelow
  · exact absurd hdot h.head?_ne

/-- A name in front of such a path, glued to it, makes another one. -/
theorem Descends.append_left {text lead : String} (h : (Path.mk text).Descends)
    (hlead : IsName lead) : (Path.mk (lead ++ text)).Descends := by
  obtain ⟨first, rest, hparts, hjoined⟩ :=
    Text.exists_splitOn_append_left hlead.noSlash text.toList
  have htext : (Path.mk text).parts = String.ofList first :: rest.map String.ofList := by
    rw [parts, hparts, List.map_cons]
  have hfirst : '/' ∉ (String.ofList first).toList :=
    not_mem_of_mem_parts (by rw [htext]; exact List.mem_cons_self)
  have happended : (Path.mk (lead ++ text)).parts =
      (lead ++ String.ofList first) :: rest.map String.ofList := by
    rw [parts, String.toList_append, hjoined, List.map_cons, String.ofList_append,
      String.ofList_toList]
  -- The first part is a name now, and the others are as they were.
  obtain ⟨-, hempty, hdot, hdots⟩ := isName_iff.1 (hlead.append hfirst)
  refine ⟨?_, ?_, ?_⟩
  · simp [isAbsolute_of_parts happended, hempty]
  · have hrest := h.noDots
    rw [htext, List.mem_cons, not_or] at hrest
    rw [happended, List.mem_cons, not_or]
    exact ⟨Ne.symm hdots, hrest.2⟩
  · rw [happended, List.head?_cons]
    exact fun heq => hdot (Option.some.inj heq)

/-- So does an extension behind it. -/
theorem Descends.append_right {text back : String} (h : (Path.mk text).Descends)
    (hback : '/' ∉ back.toList) (hlength : 2 < back.length) :
    (Path.mk (text ++ back)).Descends := by
  obtain ⟨front, last, hparts, hjoined⟩ := Text.exists_splitOn_append_right hback text.toList
  have htext : (Path.mk text).parts = front.map String.ofList ++ [String.ofList last] := by
    rw [parts, hparts, List.map_append, List.map_singleton]
  have happended : (Path.mk (text ++ back)).parts =
      front.map String.ofList ++ [String.ofList last ++ back] := by
    rw [parts, String.toList_append, hjoined, List.map_append, List.map_singleton,
      String.ofList_append, String.ofList_toList]
  -- The last part is too long to be one dot or two.
  have hlong (short : String) (hshort : short.length ≤ 2) : String.ofList last ++ back ≠ short := by
    rintro rfl
    rw [String.length_append] at hshort
    omega
  refine ⟨?_, ?_, ?_⟩
  · -- Whether the path is absolute is read off its first character.
    have habsolute := h.isAbsolute_eq
    rw [isAbsolute] at habsolute ⊢
    rw [String.toList_append]
    cases hchars : text.toList with
    | nil =>
      rw [List.nil_append]
      cases hcs : back.toList with
      | nil => rfl
      | cons c cs =>
        rw [hcs, List.mem_cons, not_or] at hback
        simpa using Ne.symm hback.1
    | cons c cs =>
      rw [hchars] at habsolute
      exact habsolute
  · have hfront := h.noDots
    rw [htext, List.mem_append, not_or] at hfront
    rw [happended, List.mem_append, not_or, List.mem_singleton]
    exact ⟨hfront.1, Ne.symm (hlong ".." (by decide))⟩
  · have hhead := h.head?_ne
    rw [htext] at hhead
    rw [happended]
    -- The part with the extension may itself be the first one.
    cases front with
    | nil => exact fun heq => hlong "." (by decide) (Option.some.inj heq)
    | cons first front => exact hhead

end Path

/-! ### Places in a tree -/

namespace FileTree

variable {t t' : FileTree} {p : Path} {loc loc' : Location}

/-- The place to which a component leads. -/
def stepTo (loc : Location) : Component → Location
  | .root => []
  | .current => loc
  | .parent => loc.dropLast
  | .normal name => loc ++ [name]

/-- The place to which components lead, one after the other. -/
def walk (loc : Location) (components : List Component) : Location :=
  components.foldl stepTo loc

theorem walk_append (loc : Location) (front back : List Component) :
    walk loc (front ++ back) = walk (walk loc front) back :=
  List.foldl_append

/-- Names lead further down. -/
theorem walk_map_normal (loc : Location) (names : List String) :
    walk loc (names.map .normal) = loc ++ names := by
  induction names generalizing loc with
  | nil => exact (List.append_nil loc).symm
  | cons name names ih =>
    rw [List.map_cons, walk, List.foldl_cons, ← walk, ih, stepTo, List.append_assoc,
      List.singleton_append]

/-- Following parts of a path ends where the components that they stand for lead. -/
theorem follow_eq_walk {parts : List String} (h : t.follow loc parts = .ok loc') :
    loc' = walk loc (parts.filterMap Path.componentOf?) := by
  -- By induction on the parts; those that stand for nothing are passed over on both sides.
  fun_induction follow t loc parts with
  | case1 loc hentry => exact (Except.ok.inj h).symm
  | case2 loc hentry => cases h
  | case3 loc part rest hentry => cases h
  | case4 loc part rest content hentry => cases h
  | case5 loc part rest hentry hidle ih =>
    have hnone : Path.componentOf? part = none := by rw [Path.componentOf?, if_pos hidle]
    rw [List.filterMap_cons_none hnone]
    exact ih h
  | case6 loc part rest hentry hidle hdots ih =>
    have hparent : Path.componentOf? part = some .parent := by
      rw [Path.componentOf?, if_neg hidle, if_pos hdots]
    rw [List.filterMap_cons_some hparent]
    exact ih h
  | case7 loc part rest hentry hidle hdots hlong => cases h
  | case8 loc part rest hentry hidle hdots hlong ih =>
    have hname : Path.componentOf? part = some (.normal part) := by
      rw [Path.componentOf?, if_neg hidle, if_neg hdots]
    rw [List.filterMap_cons_some hname]
    exact ih h

/-- Where a path leads, if it leads anywhere, follows from its components. -/
theorem resolve_eq_walk (h : t.resolve p = .ok loc) : loc = walk t.here p.components := by
  obtain ⟨first, rest, hparts⟩ := List.exists_cons_of_ne_nil p.parts_ne_nil
  rw [resolve] at h
  -- Three kinds of paths are refused before they are followed.
  split at h
  · cases h
  split at h
  · cases h
  split at h
  · cases h
  cases habsolute : p.isAbsolute with
  | true =>
    rw [habsolute, if_pos rfl, hparts] at h
    rw [Path.isAbsolute_of_parts hparts, Bool.and_eq_true] at habsolute
    have hroot : first = "" ∧ rest ≠ [] := by simpa using habsolute
    rw [Path.components_of_parts hparts, Path.head, if_pos hroot, walk_append]
    exact follow_eq_walk h
  | false =>
    rw [habsolute, if_neg Bool.false_ne_true] at h
    rw [Path.components_of_relative hparts habsolute, walk_append]
    -- The dot at the start leads nowhere else.
    have hdot : walk t.here (if first = "." then [.current] else []) = t.here := by
      split <;> rfl
    rw [hdot]
    exact follow_eq_walk h

/-- A path below a directory leads to a place inside it. -/
theorem isPrefix_of_below {dir : Path} (h : p.Below dir)
    (hdir : t.resolve dir = .ok loc) (hp : t.resolve p = .ok loc') : loc <+: loc' := by
  obtain ⟨names, hnames⟩ := h
  rw [resolve_eq_walk hdir, resolve_eq_walk hp, hnames, walk_append, walk_map_normal]
  exact List.prefix_append _ _

/-! ### Trees that agree -/

/-- In both trees a path leads to the same place, and to the same thing there. -/
structure SameAt (t t' : FileTree) (p : Path) : Prop where
  resolve_eq : t.resolve p = t'.resolve p
  find?_eq : t.find? p = t'.find? p

theorem SameAt.isFile_eq (h : t.SameAt t' p) : t.isFile p = t'.isFile p := by
  rw [isFile, isFile, h.find?_eq]

theorem SameAt.canonical_eq (h : t.SameAt t' p) : t.canonical p = t'.canonical p := by
  rw [canonical, canonical, h.resolve_eq]

/-- What is read at a path is what it leads to. -/
theorem SameAt.read_eq (h : t.SameAt t' p) : t.read p = t'.read p := by
  have hfind := h.find?_eq
  rw [find?, find?, ← h.resolve_eq] at hfind
  rw [read, read, ← h.resolve_eq]
  cases hloc : t.resolve p with
  | error fault => rfl
  | ok loc =>
    rw [hloc] at hfind
    change t.entry? loc = t'.entry? loc at hfind
    simp only [bind, Except.bind, hfind]

theorem SameAt.readText_eq (h : t.SameAt t' p) : t.readText p = t'.readText p := by
  rw [readText, readText, h.read_eq]

end FileTree

end ProseLinter
