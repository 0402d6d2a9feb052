import Mathlib.Data.List.TakeWhile
import ProseLinter.Proofs.Files.Below
import ProseLinter.Proofs.Outcome

/-!
# Writing files

A file that was written is read back, and nothing else in the tree has changed. Directories that are
made on the way come to places where nothing was, so a path that led somewhere before leads there
still.

* `Path.Above` : how a path that ends in a name is written, and the path above it.
* `FileTree.Keeps` : a tree to which only new places were added.
* `FileTree.read_write` and `FileTree.entry?_write` : what is read after a file was written.
* `FileTree.keeps_makeDirectories` : making directories changes nothing that was there.
-/

namespace ProseLinter

/-! ### Paths that end in a name -/

namespace Path

/-- The parts of a path that are followed: those behind the root, if it starts there. -/
def steps (p : Path) : List String :=
  if p.isAbsolute then p.parts.drop 1 else p.parts

theorem getLast?_steps {p : Path} (h : p.steps ≠ []) : p.steps.getLast? = p.parts.getLast? := by
  rw [steps] at h ⊢
  split at h
  · next habsolute =>
    rw [if_pos habsolute, List.getLast?_drop, if_neg]
    exact fun hlength => h (List.drop_eq_nil_of_le hlength)
  · next hrelative => rw [if_neg hrelative]

/-- Parts that stand for no component. -/
def AllIdle (parts : List String) : Prop :=
  ∀ part ∈ parts, isIdle part = true

/-- A path ends in a name. Behind the name and in front of it there may be parts that stand for
nothing, and further in front are those of the path above. -/
structure Above (p : Path) (name : String) (front gap behind : List String) : Prop where
  steps_eq : p.steps = front ++ gap ++ name :: behind
  gap_idle : AllIdle gap
  behind_idle : AllIdle behind
  isName : IsName name
  parent :
    (p.isAbsolute = false ∧ front = [] ∧ p.parent? = some ⟨""⟩) ∨
    (p.isAbsolute = true ∧ front = [] ∧ p.parent? = some ⟨"/"⟩) ∨
    ∃ q, p.parent? = some q ∧ q.text ≠ "" ∧ q.isAbsolute = p.isAbsolute ∧ q.steps = front

/-- Parts from which idle ones were taken at the end. -/
theorem exists_append_idle (parts : List String) :
    ∃ idle, AllIdle idle ∧ parts.reverse = (parts.dropWhile isIdle).reverse ++ idle := by
  refine ⟨(parts.takeWhile isIdle).reverse, fun part hpart => ?_, ?_⟩
  · exact List.mem_takeWhile_imp (List.mem_reverse.1 hpart)
  · rw [← List.reverse_append, List.takeWhile_append_dropWhile]

/-- A path that ends in a name ends in the last part that is not idle. -/
theorem getLast?_of_fileName? {p : Path} {name first : String} {rest : List String}
    (h : p.fileName? = some name) (hparts : p.parts = first :: rest) :
    (head first rest ++ (rest.reverse.dropWhile isIdle).reverse.filterMap componentOf?).getLast? =
      some (.normal name) := by
  have hidle := filterMap_dropWhile_isIdle rest.reverse
  rw [List.reverse_reverse] at hidle
  rw [hidle, ← components_of_parts hparts]
  rw [fileName?] at h
  split at h
  · next last hlast => rw [hlast, Option.some.inj h]
  · cases h

/-- The path of some parts of a path, of which the first stands for the same as before. -/
theorem exists_of_parts {p : Path} {first : String} {rest front : List String}
    (hparts : p.parts = first :: rest) (hrest : rest ≠ []) (hfront : front ⊆ rest)
    (hroot : ¬ (first = "" ∧ front = [])) :
    let q : Path := ⟨String.intercalate "/" (first :: front)⟩
    q.parts = first :: front ∧ q.text ≠ "" ∧ q.isAbsolute = p.isAbsolute := by
  intro q
  have hq : q.parts = first :: front := by
    refine parts_intercalate (List.cons_ne_nil first front) fun part hpart => ?_
    have hmem : part ∈ p.parts := by
      rw [hparts]
      exact (List.cons_subset_cons first hfront) hpart
    exact not_mem_of_mem_parts hmem
  refine ⟨hq, fun htext => hroot ?_, ?_⟩
  · have hempty : q.parts = [""] := by
      rw [show q = ⟨""⟩ from congrArg Path.mk htext]
      rfl
    simpa [hq] using hempty
  · rw [isAbsolute_of_parts hq, isAbsolute_of_parts hparts]
    by_cases hfirst : first = ""
    · have hne : front ≠ [] := fun hnil => hroot ⟨hfirst, hnil⟩
      rw [List.isEmpty_eq_false_iff.2 hne, List.isEmpty_eq_false_iff.2 hrest]
    · rw [beq_false_of_ne hfirst, Bool.false_and, Bool.false_and]

/-- Only the first part is left to be the name: the path above is the empty one. -/
theorem above_of_first {p : Path} {name first : String} {rest : List String}
    (h : p.fileName? = some name) (hparts : p.parts = first :: rest)
    (hkept : rest.reverse.dropWhile isIdle = []) : p.Above name [] [] rest := by
  have hlast := getLast?_of_fileName? h hparts
  obtain ⟨behind, hbehind, hrest⟩ := exists_append_idle rest.reverse
  rw [hkept, List.reverse_nil, List.filterMap_nil, List.append_nil] at hlast
  rw [List.reverse_reverse, hkept, List.reverse_nil, List.nil_append] at hrest
  obtain ⟨before, hhead⟩ := List.getLast?_eq_some_iff.1 hlast
  obtain ⟨rfl, hfirst⟩ := eq_nil_of_head_eq hhead
  have hname : componentOf? first = some (.normal name) := by
    rw [head, if_neg (by simp [hfirst])] at hhead
    split_ifs at hhead
    · simp at hhead
    · simpa using hhead
  obtain rfl := eq_of_componentOf?_eq_normal hname
  have hrelative : p.isAbsolute = false := by simp [isAbsolute_of_parts hparts, hfirst]
  refine ⟨?_, by simp [AllIdle], hrest ▸ hbehind, ⟨not_mem_of_fileName? h, hname⟩,
    .inl ⟨hrelative, rfl, ?_⟩⟩
  · rw [steps, hrelative, hparts]
    rfl
  · rw [parent?_of_eq_nil hparts hkept, hrelative]
    simp [hfirst]

/-- A later part is the name: the path above has the parts in front of it, or is the root. -/
theorem exists_above_of_later {p : Path} {name first last : String} {rest kept : List String}
    (h : p.fileName? = some name) (hparts : p.parts = first :: rest)
    (hkept : rest.reverse.dropWhile isIdle = last :: kept) :
    ∃ front gap behind, p.Above name front gap behind := by
  have hlast := getLast?_of_fileName? h hparts
  have habsolute := isAbsolute_of_parts hparts
  have hparent := parent?_of_eq_cons hparts hkept
  have hdrop := List.head?_dropWhile_not isIdle rest.reverse
  obtain ⟨behind, hbehind, hrest⟩ := exists_append_idle rest.reverse
  obtain ⟨gap, hgap, hfront⟩ := exists_append_idle kept
  rw [List.reverse_reverse, hkept, List.reverse_cons, hfront] at hrest
  rw [hkept, List.reverse_cons, List.filterMap_append, ← List.append_assoc] at hlast
  have hname : componentOf? last = some (.normal name) := by
    obtain ⟨c, hc⟩ : ∃ c, componentOf? last = some c := by
      rw [hkept] at hdrop
      exact Option.isSome_iff_exists.1 (by simpa [isIdle] using hdrop)
    simpa [hc] using hlast
  obtain rfl := eq_of_componentOf?_eq_normal hname
  generalize (kept.dropWhile isIdle).reverse = front at hfront hrest hparent
  have hne : rest ≠ [] := by simp [hrest]
  have hsubset : front ⊆ rest := by
    rw [hrest]
    simp
  have hisName : IsName last := ⟨not_mem_of_fileName? h, hname⟩
  by_cases hroot : first = "" ∧ front = []
  · obtain ⟨rfl, rfl⟩ := hroot
    have htrue : p.isAbsolute = true := by simp [habsolute, hne]
    refine ⟨[], gap, behind, ?_, hgap, hbehind, hisName, .inr (.inl ⟨htrue, rfl, ?_⟩)⟩
    · rw [steps, htrue, hparts, hrest]
      simp
    · simp [hparent, htrue]
  · obtain ⟨hq, htext, hqabsolute⟩ := exists_of_parts hparts hne hsubset hroot
    have hsome : p.parent? = some ⟨String.intercalate "/" (first :: front)⟩ := by
      rw [hparent, if_neg]
      rw [habsolute]
      simp only [Bool.and_eq_true, beq_iff_eq, List.isEmpty_iff]
      exact fun hcond => hroot ⟨hcond.1.1, hcond.2⟩
    refine ⟨_, gap, behind, ?_, hgap, hbehind, hisName,
      .inr (.inr ⟨_, hsome, htext, hqabsolute, rfl⟩)⟩
    rw [steps, steps, hqabsolute, hq, hparts, hrest]
    split <;> simp

/-- A path that ends in a name has a path above. -/
theorem exists_above {p : Path} {name : String} (h : p.fileName? = some name) :
    ∃ front gap behind, p.Above name front gap behind := by
  obtain ⟨first, rest, hparts⟩ := List.exists_cons_of_ne_nil p.parts_ne_nil
  cases hkept : rest.reverse.dropWhile isIdle with
  | nil => exact ⟨_, _, _, above_of_first h hparts hkept⟩
  | cons last kept => exact exists_above_of_later h hparts hkept

end Path

/-! ### Places -/

namespace FileTree

variable {t t' : FileTree} {p : Path} {loc loc' : Location} {e : Entry} {content : ByteArray}

/-- Why a path is not followed at all. -/
def refusal? (p : Path) : Option FileFault :=
  if p.text.toList.contains '\x00' then some .zeroByte
  else if p.text == "" then some .notFound
  else if pathLimit ≤ p.text.utf8ByteSize then some .nameTooLong
  else none

/-- The place at which following a path starts. -/
def start (t : FileTree) (p : Path) : Location :=
  if p.isAbsolute then [] else t.here

theorem resolve_eq (t : FileTree) (p : Path) :
    t.resolve p =
      match refusal? p with
      | some fault => .error fault
      | none => t.follow (t.start p) p.steps := by
  rw [resolve, refusal?, start, Path.steps]
  split_ifs <;> rfl

theorem resolve_eq_ok_iff :
    t.resolve p = .ok loc ↔ refusal? p = none ∧ t.follow (t.start p) p.steps = .ok loc := by
  rw [resolve_eq]
  cases refusal? p <;> simp

/-- The root is a directory. -/
@[simp]
theorem entry?_nil (t : FileTree) : t.entry? [] = some .directory :=
  rfl

theorem entry?_of_ne_nil (h : loc ≠ []) : t.entry? loc = t.entries.lookup loc := by
  rw [FileTree.entry?, if_neg (by simpa using h)]

/-- Every entry of a place is replaced, and no other. -/
theorem lookup_map_put (entries : List (Location × Entry)) :
    (entries.map fun (l, old) => if l == loc then (l, e) else (l, old)).lookup loc' =
      if loc' = loc then (entries.lookup loc).map fun _ => e else entries.lookup loc' := by
  induction entries with
  | nil => simp
  | cons x entries ih =>
    obtain ⟨l, old⟩ := x
    by_cases hl : l = loc
    · subst hl
      by_cases hloc : loc' = l
      · simp [hloc]
      · simpa [List.lookup_cons, hloc, beq_false_of_ne hloc] using ih
    · have hne : (loc == l) = false := beq_false_of_ne (Ne.symm hl)
      by_cases hloc : loc' = l
      · simp [hloc, hl]
      · simpa [List.lookup_cons, hl, hne, beq_false_of_ne hloc] using ih

/-- What a tree holds after an entry was put into it. -/
theorem entry?_put (h : loc ≠ []) :
    FileTree.entry? (t.put loc e) loc' = if loc' = loc then some e else t.entry? loc' := by
  by_cases hroot : loc' = []
  · rw [hroot, if_neg (Ne.symm h)]
    rfl
  · rw [entry?_of_ne_nil hroot, entry?_of_ne_nil hroot, put]
    split
    · next hsome =>
      rw [lookup_map_put]
      split
      · obtain ⟨old, hold⟩ := Option.isSome_iff_exists.1 hsome
        rw [hold, Option.map_some]
      · rfl
    · next hnone =>
      rw [List.lookup_append]
      split
      · next heq =>
        rw [heq, Option.not_isSome_iff_eq_none.1 hnone]
        simp
      · next hne => simp [List.lookup_cons, beq_false_of_ne hne]

@[simp]
theorem here_put : (t.put loc e).here = t.here := by
  rw [put]
  split <;> rfl

/-! ### Trees that grow -/

/-- Nothing that was in a tree has changed. -/
structure Keeps (t t' : FileTree) : Prop where
  here_eq : t'.here = t.here
  entry?_eq : ∀ loc e, t.entry? loc = some e → t'.entry? loc = some e

theorem Keeps.refl (t : FileTree) : t.Keeps t :=
  ⟨rfl, fun _ _ h => h⟩

theorem Keeps.trans {t'' : FileTree} (h : t.Keeps t') (h' : t'.Keeps t'') : t.Keeps t'' :=
  ⟨h'.here_eq.trans h.here_eq, fun loc e he => h'.entry?_eq loc e (h.entry?_eq loc e he)⟩

/-- All directories of a tree are directories still. -/
structure KeepsDirectories (t t' : FileTree) : Prop where
  here_eq : t'.here = t.here
  entry?_eq : ∀ loc, t.entry? loc = some .directory → t'.entry? loc = some .directory

theorem KeepsDirectories.start_eq (h : t.KeepsDirectories t') (p : Path) :
    t'.start p = t.start p := by
  rw [start, start, h.here_eq]

theorem Keeps.keepsDirectories (h : t.Keeps t') : t.KeepsDirectories t' :=
  ⟨h.here_eq, fun loc => h.entry?_eq loc .directory⟩

/-- An entry that comes to a place where there was no directory leaves all directories. -/
theorem keepsDirectories_put (h : loc ≠ []) (hplace : t.entry? loc ≠ some .directory) (e : Entry) :
    t.KeepsDirectories (t.put loc e) := by
  refine ⟨here_put, fun loc' hloc' => ?_⟩
  rw [entry?_put h, if_neg]
  · exact hloc'
  · rintro rfl
    exact hplace hloc'

/-- An entry comes to a place where nothing was. -/
theorem keeps_put (h : loc ≠ []) (hfree : t.entry? loc = none) (e : Entry) :
    t.Keeps (t.put loc e) := by
  refine ⟨here_put, fun loc' e' he' => ?_⟩
  rw [entry?_put h, if_neg]
  · exact he'
  · rintro rfl
    rw [hfree] at he'
    cases he'

/-! ### Following parts -/

/-- Parts are followed further from where those before them lead. -/
theorem follow_append {front back : List String} (h : t.follow loc front = .ok loc') :
    t.follow loc (front ++ back) = t.follow loc' back := by
  fun_induction follow t loc front with
  | case1 loc hentry => rw [List.nil_append, Except.ok.inj h]
  | case2 loc hentry => cases h
  | case3 loc part rest hentry => cases h
  | case4 loc part rest content hentry => cases h
  | case5 loc part rest hentry hidle ih =>
    rw [List.cons_append, follow, hentry]
    simp only [hidle, if_true]
    exact ih h
  | case6 loc part rest hentry hidle hdots ih =>
    rw [List.cons_append, follow, hentry]
    simp only [hidle, hdots, if_true]
    exact ih h
  | case7 loc part rest hentry hidle hdots hlong => cases h
  | case8 loc part rest hentry hidle hdots hlong ih =>
    rw [List.cons_append, follow, hentry]
    simp only [hidle, hdots, hlong, if_false]
    exact ih h

theorem idle_iff {part : String} :
    Path.isIdle part = true ↔ (part == "" || part == ".") = true := by
  rw [Path.isIdle, Path.componentOf?]
  split_ifs with hidle
  · simp [hidle]
  · simp [hidle]
  · simp [hidle]

/-- Parts that stand for nothing lead nowhere else. -/
theorem follow_of_allIdle {parts : List String} (h : Path.AllIdle parts)
    (hdirectory : t.entry? loc = some .directory) : t.follow loc parts = .ok loc := by
  induction parts with
  | nil => simp [follow, hdirectory]
  | cons part parts ih =>
    have hidle : (part == "" || part == ".") = true :=
      idle_iff.1 (h part List.mem_cons_self)
    rw [follow, hdirectory]
    simp only [hidle, if_true]
    exact ih fun part hpart => h part (List.mem_cons_of_mem _ hpart)

/-- Parts lead to the same place in a tree that has all the directories of another. -/
theorem KeepsDirectories.follow_eq {parts : List String} (hkeeps : t.KeepsDirectories t')
    (hend : (t'.entry? loc').isSome) (h : t.follow loc parts = .ok loc') :
    t'.follow loc parts = .ok loc' := by
  fun_induction follow t loc parts with
  | case1 loc hentry =>
    obtain rfl := Except.ok.inj h
    rw [follow, if_pos hend]
  | case2 loc hentry => cases h
  | case3 loc part rest hentry => cases h
  | case4 loc part rest content hentry => cases h
  | case5 loc part rest hentry hidle ih =>
    rw [follow, hkeeps.entry?_eq loc hentry]
    simp only [hidle, if_true]
    exact ih h
  | case6 loc part rest hentry hidle hdots ih =>
    rw [follow, hkeeps.entry?_eq loc hentry]
    simp only [hidle, hdots, if_true]
    exact ih h
  | case7 loc part rest hentry hidle hdots hlong => cases h
  | case8 loc part rest hentry hidle hdots hlong ih =>
    rw [follow, hkeeps.entry?_eq loc hentry]
    simp only [hidle, hdots, hlong, if_false]
    exact ih h

/-! ### Places beside others -/

/-- The place is in the directory to which the path above leads. -/
theorem exists_of_besides_parent {q : Path} {name : String} (hq : p.parent? = some q)
    (h : t.besides p name = .ok loc) :
    ∃ above, loc = above ++ [name] ∧ t.entry? above = some .directory ∧
      if q.text = "" then above = t.here else t.resolve q = .ok above := by
  rw [besides, hq] at h
  by_cases htext : q.text = ""
  · simp only [beq_iff_eq, if_pos htext] at h ⊢
    obtain ⟨above, habove, h⟩ := exists_of_bind_eq_ok h
    split at h
    · next hdirectory =>
      exact ⟨above, (Except.ok.inj h).symm, hdirectory, (Except.ok.inj habove).symm⟩
    · cases h
  · simp only [beq_iff_eq, if_neg htext] at h ⊢
    obtain ⟨above, habove, h⟩ := exists_of_bind_eq_ok h
    split at h
    · next hdirectory => exact ⟨above, (Except.ok.inj h).symm, hdirectory, habove⟩
    · cases h

/-- The parts in front of the name lead to that directory. -/
theorem exists_of_besides {name : String} (hname : p.fileName? = some name)
    (h : t.besides p name = .ok loc) :
    ∃ above front behind, loc = above ++ [name] ∧ t.entry? above = some .directory ∧
      p.steps = front ++ name :: behind ∧ Path.AllIdle behind ∧ Path.IsName name ∧
      t.follow (t.start p) front = .ok above := by
  obtain ⟨front, gap, behind, hp⟩ := Path.exists_above hname
  obtain ⟨q, hq⟩ : ∃ q, p.parent? = some q := by
    rcases hp.parent with ⟨-, -, hq⟩ | ⟨-, -, hq⟩ | ⟨q, hq, -⟩ <;> exact ⟨_, hq⟩
  obtain ⟨above, hloc, hdirectory, habove⟩ := exists_of_besides_parent hq h
  have hfollow : t.follow (t.start p) front = .ok above := by
    rcases hp.parent with ⟨hrelative, rfl, hq'⟩ | ⟨habsolute, rfl, hq'⟩ |
      ⟨q', hq', htext, habsolute, hsteps⟩
    · obtain rfl := Option.some.inj (hq.symm.trans hq')
      obtain rfl : above = t.here := by simpa using habove
      simp [start, hrelative, follow, hdirectory]
    · obtain rfl := Option.some.inj (hq.symm.trans hq')
      have hroot : t.resolve ⟨"/"⟩ = .ok [] := rfl
      rw [if_neg (by decide), hroot] at habove
      obtain rfl := Except.ok.inj habove
      simp [start, habsolute, follow]
    · obtain rfl := Option.some.inj (hq.symm.trans hq')
      rw [if_neg htext, resolve_eq_ok_iff, start, habsolute, hsteps] at habove
      exact habove.2
  refine ⟨above, front ++ gap, behind, hloc, hdirectory, hp.steps_eq, hp.behind_idle, hp.isName, ?_⟩
  rw [follow_append hfollow]
  exact follow_of_allIdle hp.gap_idle hdirectory

/-- A name in a directory is followed to its place. -/
theorem follow_cons_of_isName {above : Location} {name : String} {parts : List String}
    (hdirectory : t.entry? above = some .directory) (hname : Path.IsName name) :
    t.follow above (name :: parts) =
      if nameLimit < name.utf8ByteSize then .error .nameTooLong
      else t.follow (above ++ [name]) parts := by
  obtain ⟨-, hempty, hdot, hdots⟩ := Path.isName_iff.1 hname
  rw [follow, hdirectory]
  simp [hempty, hdot, hdots]

/-- A path that leads nowhere is followed as far as the directory, and there the name is missing. -/
theorem follow_of_besides {name : String} (hname : p.fileName? = some name)
    (hfree : t.resolve p = .error .notFound) (h : t.besides p name = .ok loc) :
    ∃ above front behind, loc = above ++ [name] ∧ t.entry? above = some .directory ∧
      p.steps = front ++ name :: behind ∧ Path.AllIdle behind ∧ Path.IsName name ∧
      t.follow (t.start p) front = .ok above ∧ refusal? p = none ∧
      ¬ nameLimit < name.utf8ByteSize ∧ t.follow loc behind = .error .notFound := by
  obtain ⟨above, front, behind, rfl, hdirectory, hsteps, hbehind, hisName, hfollow⟩ :=
    exists_of_besides hname h
  have hrefusal : refusal? p = none := by
    cases hrefusal : refusal? p with
    | none => rfl
    | some fault =>
      rw [resolve_eq, hrefusal] at hfree
      obtain rfl := Except.error.inj hfree
      -- Only the empty path is refused as one that leads nowhere, and it has no name.
      have htext : p.text = "" := by
        rw [refusal?] at hrefusal
        split_ifs at hrefusal with _ htext <;> simp at hrefusal
        simpa using htext
      rw [show p = ⟨""⟩ from congrArg Path.mk htext] at hname
      cases hname
  rw [resolve_eq, hrefusal] at hfree
  simp only [hsteps, follow_append hfollow, follow_cons_of_isName hdirectory hisName] at hfree
  split at hfree
  · cases hfree
  · next hshort =>
    exact ⟨above, front, behind, rfl, hdirectory, hsteps, hbehind, hisName, hfollow, hrefusal,
      hshort, hfree⟩

/-- At the place there was nothing. -/
theorem entry?_of_besides {name : String} (hname : p.fileName? = some name)
    (hfree : t.resolve p = .error .notFound) (h : t.besides p name = .ok loc) :
    loc ≠ [] ∧ t.entry? loc = none := by
  obtain ⟨above, front, behind, rfl, -, -, hbehind, -, -, -, -, hmissing⟩ :=
    follow_of_besides hname hfree h
  refine ⟨by simp, ?_⟩
  cases hentry : t.entry? (above ++ [name]) with
  | none => rfl
  | some e =>
    cases e with
    | directory =>
      rw [follow_of_allIdle hbehind hentry] at hmissing
      cases hmissing
    | file content =>
      cases behind <;> simp [follow, hentry] at hmissing

/-- A path that ends in the name leads to the place once something is there. -/
theorem resolve_of_besides {name : String} (hname : p.fileName? = some name)
    (hlast : p.parts.getLast? = some name) (hfree : t.resolve p = .error .notFound)
    (h : t.besides p name = .ok loc) (hkeeps : t.KeepsDirectories t')
    (hend : (t'.entry? loc).isSome) : t'.resolve p = .ok loc := by
  obtain ⟨above, front, behind, rfl, hdirectory, hsteps, hbehind, hisName, hfollow, hrefusal,
    hshort, -⟩ := follow_of_besides hname hfree h
  have hnil : behind = [] := by
    rcases List.eq_nil_or_concat behind with hnil | ⟨before, last, rfl⟩
    · exact hnil
    · -- The last part would stand for nothing, but it is the name.
      rw [List.concat_eq_append] at hsteps hbehind
      have hsteps' : p.steps.getLast? = some last := by
        rw [hsteps, ← List.cons_append, ← List.append_assoc, List.getLast?_concat]
      have hlast' : last = name := by
        rw [Path.getLast?_steps (by simp [hsteps]), hlast] at hsteps'
        exact (Option.some.inj hsteps').symm
      have hidle := hbehind last (by simp)
      rw [hlast', Path.isIdle, hisName.componentOf?_eq] at hidle
      cases hidle
  have hdirectory' := hkeeps.entry?_eq above hdirectory
  have hfollow' : t'.follow (t.start p) front = .ok above :=
    hkeeps.follow_eq (by rw [hdirectory']; rfl) hfollow
  rw [resolve_eq_ok_iff]
  refine ⟨hrefusal, ?_⟩
  rw [hkeeps.start_eq, hsteps, follow_append hfollow', follow_cons_of_isName hdirectory' hisName,
    if_neg hshort, hnil, follow, if_pos hend]

/-! ### Writing and making -/

/-- A file is written to the place where one was, or a new one whose name ends the path. -/
theorem target_cases (h : t.target p = .ok loc) :
    (t.resolve p = .ok loc ∧ t.entry? loc ≠ some .directory) ∨
      ∃ name, p.fileName? = some name ∧ p.parts.getLast? = some name ∧
        t.resolve p = .error .notFound ∧ t.besides p name = .ok loc := by
  rw [target] at h
  split at h
  · next loc' hresolve =>
    split at h
    · cases h
    · next hplace =>
      obtain rfl := Except.ok.inj h
      exact .inl ⟨hresolve, hplace⟩
  · next hfree =>
    split at h
    · next name hname =>
      by_cases hbehind : (p.parts.reverse.find? (· != "") != some name) = true
      · rw [if_pos hbehind] at h
        cases h
      · rw [if_neg hbehind] at h
        by_cases hlast : (p.parts.getLast? != some name) = true
        · rw [if_pos hlast] at h
          cases h
        · rw [if_neg hlast] at h
          exact .inr ⟨name, hname, by simpa using hlast, hfree, h⟩
    · cases h
  · cases h

/-- A file that was written is where its path leads, and only there the tree has changed. -/
theorem exists_of_write (h : t.write p content = .ok t') :
    ∃ loc, loc ≠ [] ∧ t' = t.put loc (.file content) ∧ t'.resolve p = .ok loc := by
  rw [write] at h
  obtain ⟨loc, htarget, h⟩ := exists_of_bind_eq_ok h
  cases h
  have hput (hloc : loc ≠ []) : (FileTree.entry? (t.put loc (.file content)) loc).isSome := by
    rw [entry?_put hloc, if_pos rfl]
    rfl
  rcases target_cases htarget with ⟨hresolve, hplace⟩ | ⟨name, hname, hlast, hfree, hbesides⟩
  · have hloc : loc ≠ [] := by
      rintro rfl
      exact hplace rfl
    have hkeeps := keepsDirectories_put hloc hplace (.file content)
    refine ⟨loc, hloc, rfl, ?_⟩
    rw [resolve_eq_ok_iff] at hresolve ⊢
    rw [hkeeps.start_eq]
    exact ⟨hresolve.1, hkeeps.follow_eq (hput hloc) hresolve.2⟩
  · obtain ⟨hloc, hmissing⟩ := entry?_of_besides hname hfree hbesides
    have hkeeps := (keeps_put hloc hmissing (.file content)).keepsDirectories
    exact ⟨loc, hloc, rfl, resolve_of_besides hname hlast hfree hbesides hkeeps (hput hloc)⟩

/-- What was written is read. -/
theorem read_write (h : t.write p content = .ok t') : t'.read p = .ok content := by
  obtain ⟨loc, hloc, rfl, hresolve⟩ := exists_of_write h
  rw [read, hresolve]
  simp only [bind, Except.bind, entry?_put hloc, if_true]
  rfl

/-- Everything else stays. -/
theorem entry?_write (h : t.write p content = .ok t') (he : t.entry? loc = some e) :
    t'.entry? loc = some e ∨ t'.resolve p = .ok loc := by
  obtain ⟨place, hplace, rfl, hresolve⟩ := exists_of_write h
  by_cases heq : loc = place
  · exact .inr (heq ▸ hresolve)
  · rw [entry?_put hplace, if_neg heq]
    exact .inl he

theorem keeps_makeDirectory (h : t.makeDirectory p = .ok t') : t.Keeps t' := by
  rw [makeDirectory] at h
  split at h
  · cases h
  · next hfree =>
    split at h
    · next name hname =>
      obtain ⟨loc, hbesides, h⟩ := exists_of_bind_eq_ok h
      cases h
      obtain ⟨hloc, hmissing⟩ := entry?_of_besides hname hfree hbesides
      exact keeps_put hloc hmissing .directory
    · cases h
  · cases h

/-- Directories are made one after the other, and the others stay if one cannot be made. -/
theorem keeps_makeAll (t : FileTree) (paths : List Path) : t.Keeps (t.makeAll paths).2 := by
  induction paths generalizing t with
  | nil => exact .refl t
  | cons q paths ih =>
    rw [makeAll]
    split
    · exact ih t
    · split
      · next t' hmade => exact (keeps_makeDirectory hmade).trans (ih t')
      · exact .refl t

theorem keeps_makeDirectories (t : FileTree) (p : Path) : t.Keeps (t.makeDirectories p).2 :=
  keeps_makeAll t p.ancestors.reverse

end FileTree

end ProseLinter
