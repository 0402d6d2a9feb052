import Mathlib.Data.List.Infix
import ProseLinter.Proofs.Files.Directory

/-!
# Absolute paths of locations

The absolute path of a location has its names behind the root. Above it there are the absolute paths
of the locations on the way to it, and a name behind it makes the path of what has that name there.

* `Path.join_ofLocation` : a name behind an absolute path.
* `Path.ancestors_ofLocation` : an absolute path and those above it.
* `FileTree.isFile_ofLocation_iff` : when an absolute path leads to a file.
-/

namespace ProseLinter

namespace Path

variable {loc : Location} {name : String}

/-- All names of a location may stand in a path. -/
def AllNames (loc : Location) : Prop :=
  ∀ name ∈ loc, IsName name

theorem AllNames.concat (h : AllNames loc) (hname : IsName name) : AllNames (loc ++ [name]) := by
  rw [AllNames, List.forall_mem_append]
  exact ⟨h, List.forall_mem_singleton.2 hname⟩

theorem AllNames.of_concat (h : AllNames (loc ++ [name])) : AllNames loc ∧ IsName name := by
  rw [AllNames, List.forall_mem_append] at h
  exact ⟨h.1, List.forall_mem_singleton.1 h.2⟩

theorem isIdle_eq_false (h : IsName name) : isIdle name = false := by
  rw [isIdle, h.componentOf?_eq]
  rfl

/-! ### Parts -/

/-- Paths with the same parts are written in the same way. -/
theorem eq_of_parts_eq {p q : Path} (h : p.parts = q.parts) : p = q := by
  have htext : p.text = q.text := by rw [text_eq_intercalate, text_eq_intercalate, h]
  cases p
  exact congrArg Path.mk htext

/-- The root comes from an empty part in front of the names. -/
theorem ofLocation_eq (h : loc ≠ []) : ofLocation loc = ⟨String.intercalate "/" ("" :: loc)⟩ := by
  rw [ofLocation, String.intercalate_cons_of_ne_nil h, String.empty_append]

theorem parts_ofLocation (h : AllNames loc) (hne : loc ≠ []) :
    (ofLocation loc).parts = "" :: loc := by
  rw [ofLocation_eq hne]
  refine parts_intercalate (List.cons_ne_nil _ _) fun part hpart => ?_
  rcases List.mem_cons.1 hpart with rfl | hpart
  · decide
  · exact (h part hpart).noSlash

theorem isAbsolute_ofLocation (loc : Location) : (ofLocation loc).isAbsolute = true := by
  rw [isAbsolute, ofLocation, String.toList_append]
  rfl

theorem steps_ofLocation (h : AllNames loc) (hne : loc ≠ []) : (ofLocation loc).steps = loc := by
  rw [steps, isAbsolute_ofLocation, if_pos rfl, parts_ofLocation h hne]
  rfl

/-- A name behind the path of a location makes the path of what has that name there. -/
theorem join_ofLocation (h : AllNames loc) (hname : IsName name) :
    (ofLocation loc).join ⟨name⟩ = ofLocation (loc ++ [name]) := by
  have hrelative := isAbsolute_of_isName hname
  by_cases hne : loc = []
  · rw [hne, join, hrelative]
    simp [ofLocation]
  · have hparts := parts_ofLocation h hne
    have htext : (ofLocation loc).text ≠ "" := by
      intro hempty
      rw [show ofLocation loc = ⟨""⟩ from congrArg Path.mk hempty] at hparts
      exact hne (List.cons.inj hparts).2.symm
    obtain ⟨front, hjoined, -, hfront⟩ := parts_join htext hrelative
    refine eq_of_parts_eq ?_
    rw [hjoined, parts_of_not_mem hname.noSlash,
      parts_ofLocation (h.concat hname) (List.append_ne_nil_of_right_ne_nil _ (by simp))]
    rcases hfront with hfront | hfront
    · -- The last part of the path is a name, not an empty one.
      obtain ⟨before, last, rfl⟩ := (List.eq_nil_or_concat' loc).resolve_left hne
      rw [hparts, ← List.cons_append] at hfront
      obtain ⟨-, rfl⟩ := List.append_singleton_inj.1 hfront
      exact absurd rfl (isName_iff.1 h.of_concat.2).2.1
    · rw [← hfront, hparts]
      rfl

theorem components_ofLocation (h : AllNames loc) :
    (ofLocation loc).components = .root :: loc.map .normal := by
  induction loc using List.reverseRecOn with
  | nil => decide
  | append_singleton loc name ih =>
    obtain ⟨hloc, hname⟩ := h.of_concat
    rw [← join_ofLocation hloc hname, components_join _ hname, ih hloc]
    simp

/-! ### The paths above -/

theorem parent?_ofLocation_nil : (ofLocation []).parent? = none := by
  decide

/-- Above the path of something in a directory there is the path of the directory. -/
theorem parent?_ofLocation_concat (h : AllNames (loc ++ [name])) :
    (ofLocation (loc ++ [name])).parent? = some (ofLocation loc) := by
  obtain ⟨hloc, hname⟩ := h.of_concat
  have hparts := parts_ofLocation h (List.append_ne_nil_of_right_ne_nil _ (by simp))
  have hlast : (loc ++ [name]).reverse.dropWhile isIdle = name :: loc.reverse := by
    simp [isIdle_eq_false hname]
  have hkept : (loc.reverse.dropWhile isIdle).reverse = loc := by
    -- The last name that is left is not idle either.
    rw [List.dropWhile_eq_self_iff.2, List.reverse_reverse]
    intro hlength hidle
    have hmem := List.mem_reverse.1 (List.getElem_mem hlength)
    rw [isIdle_eq_false (hloc _ hmem)] at hidle
    cases hidle
  rw [parent?_of_eq_cons hparts hlast, hkept, isAbsolute_ofLocation]
  -- The root is written with a slash that stands between parts elsewhere.
  by_cases hne : loc = []
  · rw [hne]
    rfl
  · rw [ofLocation_eq hne]
    simp [hne]

/-- The locations on the way to a location, from itself to the root. -/
theorem inits_concat_reverse (loc : Location) (name : String) :
    (loc ++ [name]).inits.reverse = (loc ++ [name]) :: loc.inits.reverse := by
  simp [List.inits_append]

theorem ancestorsFrom_ofLocation {fuel : Nat} (h : AllNames loc) (hfuel : loc.length ≤ fuel) :
    ancestorsFrom fuel (ofLocation loc) = loc.inits.reverse.map ofLocation := by
  induction loc using List.reverseRecOn generalizing fuel with
  | nil =>
    cases fuel with
    | zero => rfl
    | succ fuel =>
      rw [ancestorsFrom, parent?_ofLocation_nil]
      rfl
  | append_singleton loc name ih =>
    rw [List.length_append, List.length_singleton] at hfuel
    cases fuel with
    | zero => cases hfuel
    | succ fuel =>
      rw [ancestorsFrom, parent?_ofLocation_concat h]
      simp only
      rw [ih h.of_concat.1 (Nat.le_of_succ_le_succ hfuel), inits_concat_reverse, List.map_cons]

/-- The path of a location and those above it are the paths of the locations on the way to it. -/
theorem ancestors_ofLocation (h : AllNames loc) :
    (ofLocation loc).ancestors = loc.inits.reverse.map ofLocation := by
  refine ancestorsFrom_ofLocation h ?_
  rw [components_ofLocation h, List.length_cons, List.length_map]
  exact Nat.le_succ _

/-! ### Texts -/

/-- What is not in the names is not between them either. -/
theorem not_mem_intercalate {c : Char} {names : List String} (hslash : c ≠ '/')
    (h : ∀ name ∈ names, c ∉ name.toList) : c ∉ (String.intercalate "/" names).toList := by
  induction names with
  | nil => exact List.not_mem_nil
  | cons name names ih =>
    obtain ⟨hname, hnames⟩ := List.forall_mem_cons.1 h
    by_cases hne : names = []
    · simpa [hne] using hname
    · rw [String.intercalate_cons_of_ne_nil hne]
      simp only [String.toList_append, List.mem_append, not_or]
      exact ⟨⟨hname, by simpa using hslash⟩, ih hnames⟩

theorem utf8ByteSize_ofLocation_singleton (name : String) :
    (ofLocation [name]).text.utf8ByteSize = name.utf8ByteSize + 1 := by
  have hslash : "/".utf8ByteSize = 1 := rfl
  rw [ofLocation, String.utf8ByteSize_append, String.intercalate_singleton, hslash, Nat.add_comm]

/-- A name in front stands behind a slash of its own. -/
theorem utf8ByteSize_ofLocation_cons (name : String) (hne : loc ≠ []) :
    (ofLocation (name :: loc)).text.utf8ByteSize =
      name.utf8ByteSize + 1 + (ofLocation loc).text.utf8ByteSize := by
  have hslash : "/".utf8ByteSize = 1 := rfl
  rw [ofLocation, ofLocation, String.utf8ByteSize_append, String.intercalate_cons_of_ne_nil hne,
    String.utf8ByteSize_append, String.utf8ByteSize_append, String.utf8ByteSize_append]
  omega

end Path

namespace FileTree

variable {t : FileTree} {loc : Location} {name : String}

/-- A path leads to a file if it leads to a location where there is one. -/
theorem isFile_iff {p : Path} :
    t.isFile p = true ↔
      ∃ loc content, t.resolve p = .ok loc ∧ t.entry? loc = some (.file content) := by
  rw [isFile, find?]
  cases t.resolve p with
  | error fault => simp
  | ok loc =>
    rcases hentry : t.entry? loc with _ | ⟨content⟩ | _ <;> simp [hentry]

/-- The absolute path of a location leads there, if it leads anywhere. -/
theorem eq_of_resolve_ofLocation {loc' : Location} (hnames : Path.AllNames loc)
    (h : t.resolve (Path.ofLocation loc) = .ok loc') : loc' = loc := by
  rw [resolve_eq_walk h, Path.components_ofLocation hnames]
  exact walk_map_normal [] loc

section WellFormed

variable (h : t.WellFormed)

include h

theorem allNames_of_isSome (hentry : (t.entry? loc).isSome) : Path.AllNames loc :=
  fun _ hname => (h.isEntryName_of_mem hentry hname).isName

/-- The names on the way to what is there are followed from directory to directory. -/
theorem follow_location (hentry : (t.entry? loc).isSome) : t.follow [] loc = .ok loc := by
  -- By induction on the location from its end: what is there stands in a directory.
  induction loc using List.reverseRecOn with
  | nil => rfl
  | append_singleton loc name ih =>
    have hdirectory := h.entry?_parent hentry
    have hname := h.isEntryName_of_mem hentry List.mem_concat_self
    rw [follow_append (ih (Option.isSome_of_eq_some hdirectory)), follow_name hdirectory hname,
      if_pos hentry]

theorem resolve_ofLocation (hentry : (t.entry? loc).isSome) (hne : loc ≠ [])
    (hshort : (Path.ofLocation loc).text.utf8ByteSize < pathLimit) :
    t.resolve (Path.ofLocation loc) = .ok loc := by
  rw [resolve_eq_ok_iff, refusal?_eq_none_iff, start, Path.isAbsolute_ofLocation, if_pos rfl,
    Path.steps_ofLocation (allNames_of_isSome h hentry) hne]
  refine ⟨⟨?_, ?_, hshort⟩, follow_location h hentry⟩
  · rw [Path.ofLocation, String.toList_append, List.mem_append]
    have hzero : ∀ name ∈ loc, '\x00' ∉ name.toList := fun name hname =>
      (h.isEntryName_of_mem hentry hname).noZero
    exact not_or_intro (by decide) (Path.not_mem_intercalate (by decide) hzero)
  · rw [Path.ofLocation, Ne, ← String.toList_inj, String.toList_append]
    exact List.cons_ne_nil _ _

/-- The absolute path of a location leads to a file if there is one and the path is not too long. -/
theorem isFile_ofLocation_iff (hnames : Path.AllNames loc) :
    t.isFile (Path.ofLocation loc) = true ↔
      (Path.ofLocation loc).text.utf8ByteSize < pathLimit ∧
        ∃ content, t.entry? loc = some (.file content) := by
  rw [isFile_iff]
  constructor
  · rintro ⟨loc', content, hresolve, hentry⟩
    obtain rfl := eq_of_resolve_ofLocation hnames hresolve
    exact ⟨(refusal?_eq_none_iff.1 (resolve_eq_ok_iff.1 hresolve).1).2.2, content, hentry⟩
  · rintro ⟨hshort, content, hentry⟩
    have hne : loc ≠ [] := by
      rintro rfl
      cases hentry
    exact ⟨loc, content, resolve_ofLocation h (Option.isSome_of_eq_some hentry) hne hshort, hentry⟩

end WellFormed

end FileTree

end ProseLinter
