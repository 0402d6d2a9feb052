import Mathlib.Data.List.Nodup
import ProseLinter.Proofs.Files.Write

/-!
# What a directory holds

A file system has one entry at a location, under a name that may stand in a path. So the names that
are listed of a directory are all different, they do not depend on the order in which the tree holds
its entries, and each of them leads to its entry when it is put behind a path of the directory,
unless the path gets too long.

* `FileTree.WellFormed` : trees as file systems hold them.
* `FileTree.Relisted` : the same tree, with its entries in another order.
* `FileTree.mem_namesIn_iff` and `FileTree.WellFormed.nodup_namesIn` : the names in a directory.
* `FileTree.isFile_join_iff` : when a name behind a path of a directory leads to a file.
-/

namespace ProseLinter

/-- A value is found under a key exactly if the two stand together in the list, provided that no
other value has the key. -/
theorem lookup_eq_some_iff_mem {α β : Type} [BEq α] [LawfulBEq α] {items : List (α × β)}
    (h : (items.map Prod.fst).Nodup) {a : α} {b : β} :
    items.lookup a = some b ↔ (a, b) ∈ items := by
  induction items with
  | nil => simp
  | cons p items ih =>
    obtain ⟨a', b'⟩ := p
    rw [List.map_cons, List.nodup_cons] at h
    by_cases ha : a = a'
    · subst ha
      have hrest : (a, b) ∉ items := fun hmem => h.1 (List.mem_map.2 ⟨_, hmem, rfl⟩)
      simp [hrest, eq_comm]
    · rw [List.lookup_cons, beq_false_of_ne ha]
      simp [ha, ih h.2]

namespace FileTree

variable {t t' : FileTree} {loc loc' : Location} {p dir : Path} {name : String} {e : Entry}

/-- A name that an entry may have in its directory. -/
structure IsEntryName (name : String) : Prop where
  isName : Path.IsName name
  noZero : '\x00' ∉ name.toList
  utf8ByteSize_le : name.utf8ByteSize ≤ nameLimit

theorem isEntryName_iff :
    IsEntryName name ↔
      Path.IsName name ∧ '\x00' ∉ name.toList ∧ name.utf8ByteSize ≤ nameLimit :=
  ⟨fun h => ⟨h.isName, h.noZero, h.utf8ByteSize_le⟩, fun ⟨h, hzero, hsize⟩ => ⟨h, hzero, hsize⟩⟩

instance : Decidable (IsEntryName name) :=
  decidable_of_iff _ ((and_congr_left' Path.isName_iff).symm.trans isEntryName_iff.symm)

/-- Whether there is a directory at a location can be decided. -/
instance : Decidable (t.entry? loc = some .directory) :=
  match h : t.entry? loc with
  | some .directory => isTrue rfl
  | some (.file _) => isFalse fun heq => by cases heq
  | none => isFalse fun heq => by cases heq

/-- Whether there is a file at a location. -/
def hasFile (t : FileTree) (loc : Location) : Bool :=
  match t.entry? loc with
  | some (.file _) => true
  | _ => false

theorem hasFile_iff : t.hasFile loc = true ↔ ∃ content, t.entry? loc = some (.file content) := by
  rw [hasFile]
  rcases t.entry? loc with _ | ⟨content⟩ | _ <;> simp

/-- A tree as a file system holds it: no location has two entries, the names that lead to an entry
may stand in a path, and every entry stands in a directory. -/
structure WellFormed (t : FileTree) : Prop where
  nodup : (t.entries.map Prod.fst).Nodup
  isEntryName : ∀ entry ∈ t.entries, ∀ name ∈ entry.1, IsEntryName name
  parent : ∀ entry ∈ t.entries, t.entry? entry.1.dropLast = some .directory

theorem wellFormed_iff :
    t.WellFormed ↔
      (t.entries.map Prod.fst).Nodup ∧
        (∀ entry ∈ t.entries, ∀ name ∈ entry.1, IsEntryName name) ∧
        ∀ entry ∈ t.entries, t.entry? entry.1.dropLast = some .directory :=
  ⟨fun h => ⟨h.nodup, h.isEntryName, h.parent⟩,
    fun ⟨hnodup, hnames, hparent⟩ => ⟨hnodup, hnames, hparent⟩⟩

instance : Decidable t.WellFormed :=
  decidable_of_iff _ wellFormed_iff.symm

/-- The same tree, with its entries in another order. -/
structure Relisted (t t' : FileTree) : Prop where
  here_eq : t.here = t'.here
  perm : t.entries.Perm t'.entries

theorem WellFormed.entry?_eq_some_iff (h : t.WellFormed) (hloc : loc ≠ []) :
    t.entry? loc = some e ↔ (loc, e) ∈ t.entries := by
  rw [entry?_of_ne_nil hloc, lookup_eq_some_iff_mem h.nodup]

/-- The names that lead to what is there may stand in a path. -/
theorem WellFormed.isEntryName_of_mem (h : t.WellFormed) (hentry : (t.entry? loc).isSome)
    (hname : name ∈ loc) : IsEntryName name := by
  obtain ⟨e, he⟩ := Option.isSome_iff_exists.1 hentry
  exact h.isEntryName (loc, e) ((h.entry?_eq_some_iff (List.ne_nil_of_mem hname)).1 he) name hname

/-- What is there stands in a directory. -/
theorem WellFormed.entry?_parent (h : t.WellFormed) (hentry : (t.entry? (loc ++ [name])).isSome) :
    t.entry? loc = some .directory := by
  obtain ⟨e, he⟩ := Option.isSome_iff_exists.1 hentry
  have hne : loc ++ [name] ≠ [] := List.append_ne_nil_of_right_ne_nil loc (List.cons_ne_nil _ _)
  have hparent := h.parent _ ((h.entry?_eq_some_iff hne).1 he)
  rwa [List.dropLast_concat] at hparent

/-! ### The order of the entries -/

/-- What is at a location does not depend on the order of the entries. -/
theorem Relisted.entry?_eq (hr : t.Relisted t') (h : t.WellFormed) (loc : Location) :
    t.entry? loc = t'.entry? loc := by
  by_cases hloc : loc = []
  · rw [hloc]
    rfl
  · have hnodup := (hr.perm.map Prod.fst).nodup h.nodup
    ext e
    rw [h.entry?_eq_some_iff hloc, entry?_of_ne_nil hloc, lookup_eq_some_iff_mem hnodup,
      hr.perm.mem_iff]

theorem Relisted.wellFormed (hr : t.Relisted t') (h : t.WellFormed) : t'.WellFormed where
  nodup := (hr.perm.map Prod.fst).nodup h.nodup
  isEntryName entry hentry := h.isEntryName entry (hr.perm.mem_iff.2 hentry)
  parent entry hentry := by
    rw [← hr.entry?_eq h]
    exact h.parent entry (hr.perm.mem_iff.2 hentry)

theorem follow_congr (h : ∀ loc, t.entry? loc = t'.entry? loc) (loc : Location)
    (parts : List String) : t.follow loc parts = t'.follow loc parts := by
  induction parts generalizing loc with
  | nil => rw [follow, follow, h]
  | cons part parts ih => simp only [follow, h, ih]

theorem Relisted.resolve_eq (hr : t.Relisted t') (h : t.WellFormed) (p : Path) :
    t.resolve p = t'.resolve p := by
  simp only [resolve, hr.here_eq, follow_congr (hr.entry?_eq h)]

/-- No path leads anywhere else when the entries stand in another order. -/
theorem Relisted.sameAt (hr : t.Relisted t') (h : t.WellFormed) (p : Path) : t.SameAt t' p where
  resolve_eq := hr.resolve_eq h p
  find?_eq := by simp only [find?, hr.resolve_eq h, hr.entry?_eq h]

/-! ### Names in a directory -/

/-- The name under which a location stands in a directory, if it does. -/
def nameBelow? (loc l : Location) : Option String :=
  if l.dropLast == loc then l.getLast? else none

theorem nameBelow?_eq_some_iff {l : Location} :
    nameBelow? loc l = some name ↔ l = loc ++ [name] := by
  rw [nameBelow?]
  constructor
  · intro h
    split at h
    · next hloc =>
      obtain ⟨front, rfl⟩ := List.getLast?_eq_some_iff.1 h
      rw [List.dropLast_concat] at hloc
      rw [eq_of_beq hloc]
    · cases h
  · rintro rfl
    simp

theorem namesIn_eq (t : FileTree) (loc : Location) :
    t.namesIn loc = (t.entries.map Prod.fst).filterMap (nameBelow? loc) := by
  rw [List.filterMap_map]
  rfl

/-- The names in a directory are those of its entries. -/
theorem mem_namesIn_iff (h : t.WellFormed) :
    name ∈ t.namesIn loc ↔ ∃ e, t.entry? (loc ++ [name]) = some e := by
  have hne : loc ++ [name] ≠ [] := List.append_ne_nil_of_right_ne_nil loc (List.cons_ne_nil _ _)
  rw [namesIn_eq, List.mem_filterMap]
  simp only [nameBelow?_eq_some_iff, h.entry?_eq_some_iff hne]
  constructor
  · rintro ⟨l, hl, rfl⟩
    obtain ⟨⟨-, e⟩, he, rfl⟩ := List.mem_map.1 hl
    exact ⟨e, he⟩
  · rintro ⟨e, he⟩
    exact ⟨_, List.mem_map_of_mem he, rfl⟩

theorem WellFormed.nodup_namesIn (h : t.WellFormed) (loc : Location) : (t.namesIn loc).Nodup := by
  rw [namesIn_eq]
  -- In one directory a name belongs to one location, and no location comes twice.
  refine h.nodup.filterMap fun l l' name hl hl' => ?_
  exact (nameBelow?_eq_some_iff.1 hl).trans (nameBelow?_eq_some_iff.1 hl').symm

theorem Relisted.namesIn_perm (hr : t.Relisted t') (loc : Location) :
    (t.namesIn loc).Perm (t'.namesIn loc) :=
  hr.perm.filterMap _

/-- What is listed at a path are the names in the directory to which it leads. -/
theorem children_eq_ok_iff {all : List Path} :
    t.children dir = .ok all ↔
      ∃ loc, t.resolve dir = .ok loc ∧ t.entry? loc = some .directory ∧
        all = (t.namesIn loc).map fun name => dir.join ⟨name⟩ := by
  rw [children]
  cases t.resolve dir with
  | error fault => simp [bind, Except.bind]
  | ok loc =>
    simp only [bind, Except.bind, Except.ok.injEq, exists_eq_left']
    rcases t.entry? loc with _ | ⟨content⟩ | _ <;>
      simp [throw, throwThe, MonadExceptOf.throw, pure, Except.pure, eq_comm]

/-- A path at which nothing is listed has the same fault when the entries stand in another order. -/
theorem Relisted.children_eq_error (hr : t.Relisted t') (h : t.WellFormed) {fault : FileFault}
    (hchildren : t.children dir = .error fault) : t'.children dir = .error fault := by
  rw [children, hr.resolve_eq h] at hchildren
  rw [children]
  cases hdir : t'.resolve dir with
  | error fault' =>
    rw [hdir] at hchildren
    exact hchildren
  | ok loc =>
    rw [hdir] at hchildren
    simp only [bind, Except.bind, hr.entry?_eq h] at hchildren ⊢
    split at hchildren
    · cases hchildren
    · exact hchildren
    · exact hchildren

/-! ### Names behind a path -/

/-- A path is followed from something that is there. -/
theorem isSome_entry?_of_follow {parts : List String} (h : t.follow loc parts = .ok loc') :
    (t.entry? loc).isSome := by
  cases parts with
  | nil =>
    rw [follow] at h
    split at h
    · assumption
    · cases h
  | cons part parts =>
    rw [follow] at h
    split at h
    · cases h
    · cases h
    · next hentry => rw [hentry, Option.isSome_some]

/-- A path leads to something that is there. -/
theorem isSome_entry?_of_resolve (h : t.resolve p = .ok loc) : (t.entry? loc).isSome := by
  have hfollow := (resolve_eq_ok_iff.1 h).2
  have hend : t.follow loc [] = .ok loc := by
    rw [← follow_append hfollow, List.append_nil, hfollow]
  exact isSome_entry?_of_follow hend

/-- Parts that lead somewhere lead to a location on the way. -/
theorem exists_of_follow_append {front back : List String}
    (h : t.follow loc (front ++ back) = .ok loc') :
    ∃ middle, t.follow loc front = .ok middle ∧ t.follow middle back = .ok loc' := by
  -- By induction on the parts in front, in each of the ways in which a part is followed.
  induction front generalizing loc with
  | nil => exact ⟨loc, by rw [follow, if_pos (isSome_entry?_of_follow h)], h⟩
  | cons part front ih =>
    rw [List.cons_append, follow] at h
    rw [follow]
    split at h
    · cases h
    · cases h
    · split at h
      · next hidle =>
        simp only [hidle, if_true]
        exact ih h
      · next hidle =>
        split at h
        · next hdots =>
          simp only [hidle, hdots, if_true]
          exact ih h
        · next hdots =>
          split at h
          · cases h
          · next hshort =>
            simp only [hidle, hdots, hshort, if_false]
            exact ih h

/-- A name behind a path does not change where the path starts. -/
theorem isAbsolute_join (hp : p.text ≠ "") (hname : Path.IsName name) :
    (p.join ⟨name⟩).isAbsolute = p.isAbsolute := by
  have hchars : p.text.toList ≠ [] := by rwa [Ne, String.toList_eq_nil_iff]
  obtain ⟨c, cs, hcs⟩ := List.exists_cons_of_ne_nil hchars
  rw [Path.join, Path.isAbsolute_of_isName hname, if_neg Bool.false_ne_true,
    if_neg (by simpa using hp)]
  split <;> simp [Path.isAbsolute, hcs]

/-- A path with a name behind it is at least as long as both together. -/
theorem le_utf8ByteSize_join (hp : p.text ≠ "") (hname : Path.IsName name) :
    p.text.utf8ByteSize + name.utf8ByteSize ≤ (p.join ⟨name⟩).text.utf8ByteSize := by
  rw [Path.join, Path.isAbsolute_of_isName hname, if_neg Bool.false_ne_true,
    if_neg (by simpa using hp)]
  split <;> simp only [String.utf8ByteSize_append] <;> omega

/-- What is followed of a path with a name behind it: the name comes last, in the place of an empty
part, if the path ends in one. -/
theorem exists_steps_join (hp : p.text ≠ "") (hname : Path.IsName name) :
    ∃ front, (p.join ⟨name⟩).steps = front ++ [name] ∧
      (p.steps = front ++ [""] ∨ p.steps = front) := by
  obtain ⟨front, hjoined, hfront, hparts⟩ :=
    Path.parts_join hp (Path.isAbsolute_of_isName hname)
  rw [Path.parts_of_not_mem hname.noSlash] at hjoined
  obtain ⟨first, rest, rfl⟩ := List.exists_cons_of_ne_nil hfront
  rw [Path.steps, Path.steps, isAbsolute_join hp hname, hjoined]
  split
  · refine ⟨rest, rfl, ?_⟩
    rcases hparts with hparts | hparts
    · exact .inl (by rw [hparts]; rfl)
    · exact .inr (by rw [hparts]; rfl)
  · exact ⟨first :: rest, rfl, hparts⟩

theorem refusal?_eq_none_iff :
    refusal? p = none ↔
      '\x00' ∉ p.text.toList ∧ p.text ≠ "" ∧ p.text.utf8ByteSize < pathLimit := by
  simp only [refusal?, List.contains_iff_mem, beq_iff_eq]
  split_ifs with hzero hempty hlong
  · simp [hzero]
  · simp [hempty]
  · simp [hlong]
  · simp [hzero, hempty, Nat.lt_of_not_le hlong]

/-- A name behind a path is followed unless both together are too long. -/
theorem refusal?_join (hp : refusal? p = none) (hname : IsEntryName name) :
    refusal? (p.join ⟨name⟩) = none ↔ (p.join ⟨name⟩).text.utf8ByteSize < pathLimit := by
  obtain ⟨hzero, hempty, -⟩ := refusal?_eq_none_iff.1 hp
  rw [refusal?_eq_none_iff]
  refine ⟨fun h => h.2.2, fun h => ⟨?_, ?_, h⟩⟩
  all_goals
    rw [Path.join, Path.isAbsolute_of_isName hname.isName, if_neg Bool.false_ne_true,
      if_neg (by simpa using hempty)]
    split
  · simpa using ⟨hzero, hname.noZero⟩
  · simpa using ⟨hzero, hname.noZero⟩
  · simpa using fun h => absurd h hempty
  · simp

/-- A name is followed from a directory to the place below it, if something is there. -/
theorem follow_name (hentry : t.entry? loc = some .directory) (hname : IsEntryName name) :
    t.follow loc [name] =
      if (t.entry? (loc ++ [name])).isSome then .ok (loc ++ [name]) else .error .notFound := by
  rw [follow_cons_of_isName hentry hname.isName, if_neg (Nat.not_lt.2 hname.utf8ByteSize_le),
    follow]

/-- An empty part leads nowhere else. -/
theorem eq_of_follow_empty (h : t.follow loc [""] = .ok loc') : loc = loc' := by
  cases hentry : t.entry? loc with
  | none => simp [follow, hentry] at h
  | some e =>
    cases e with
    | file content => simp [follow, hentry] at h
    | directory =>
      have hidle : Path.AllIdle [""] := by simp [Path.AllIdle, Path.isIdle, Path.componentOf?]
      rw [follow_of_allIdle hidle hentry] at h
      exact Except.ok.inj h

/-- The parts of a path lead on from where it starts to where the path leads, and a name behind it
leads on from there. -/
theorem follow_join (hdir : t.resolve dir = .ok loc) (hname : IsEntryName name) :
    t.follow (t.start (dir.join ⟨name⟩)) (dir.join ⟨name⟩).steps = t.follow loc [name] := by
  obtain ⟨hrefusal, hfollow⟩ := resolve_eq_ok_iff.1 hdir
  have hdirText := (refusal?_eq_none_iff.1 hrefusal).2.1
  obtain ⟨front, hsteps, hfront⟩ := exists_steps_join hdirText hname.isName
  have hstart : t.start (dir.join ⟨name⟩) = t.start dir := by
    rw [start, start, isAbsolute_join hdirText hname.isName]
  rw [hstart, hsteps]
  rcases hfront with hfront | hfront
  · -- The name takes the place of the empty part behind a last slash.
    rw [hfront] at hfollow
    obtain ⟨middle, hmiddle, hlast⟩ := exists_of_follow_append hfollow
    rw [follow_append hmiddle, eq_of_follow_empty hlast]
  · rw [hfront] at hfollow
    exact follow_append hfollow

/-- A name behind a path of a directory leads to a file exactly if the directory has a file of that
name and the path does not get too long. -/
theorem isFile_join_iff (hdir : t.resolve dir = .ok loc) (hentry : t.entry? loc = some .directory)
    (hname : IsEntryName name) :
    t.isFile (dir.join ⟨name⟩) = true ↔
      (dir.join ⟨name⟩).text.utf8ByteSize < pathLimit ∧
        ∃ content, t.entry? (loc ++ [name]) = some (.file content) := by
  rw [← refusal?_join (resolve_eq_ok_iff.1 hdir).1 hname, isFile, find?, resolve_eq,
    follow_join hdir hname, follow_name hentry hname]
  cases refusal? (dir.join ⟨name⟩) with
  | some fault => simp
  | none =>
    cases hbelow : t.entry? (loc ++ [name]) with
    | none => simp
    | some e => cases e <;> simp [hbelow]

/-- A file behind a path of a directory is the one that the directory has under that name. -/
theorem resolve_join (hdir : t.resolve dir = .ok loc) (hentry : t.entry? loc = some .directory)
    (hname : IsEntryName name) (hfile : t.isFile (dir.join ⟨name⟩) = true) :
    t.resolve (dir.join ⟨name⟩) = .ok (loc ++ [name]) := by
  obtain ⟨hshort, content, hcontent⟩ := (isFile_join_iff hdir hentry hname).1 hfile
  have hrefusal := (refusal?_join (resolve_eq_ok_iff.1 hdir).1 hname).2 hshort
  rw [resolve_eq_ok_iff, follow_join hdir hname, follow_name hentry hname, hcontent]
  exact ⟨hrefusal, rfl⟩

end FileTree

end ProseLinter
