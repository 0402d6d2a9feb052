import Mathlib.Data.List.Induction
import Mathlib.Data.List.Nodup
import ProseLinter.Proofs.Config.Naming
import ProseLinter.Report.Formatters
import ProseLinter.Rule.Catalog

/-!
# Where formats come from

A format is built in, registered or a module. Whatever is registered, and however often, a built-in
name stands for its built-in format, any other registered name for the format registered last, and
only a specifier that is neither is looked for in the file tree.

* `Formatters.after` : the formats after some registrations, refused ones among them.
* `Formatters.Reflects.call` and `Formatters.reflects_after` : what is registered are the last
  formats of all names, step by step.
* `Formatters.Chosen` and `Formatters.Loads` : the file of a specifier and what it gives.
* `Formatters.resolve_after` : what a specifier stands for after some registrations.
-/

namespace ProseLinter.Formatters

open Formatter (builtins)

variable {fs : Formatters} {calls : List (String × Formatter)} {name : String} {f g : Formatter}
  {files : FileTree} {base? : Option Path} {path : Path}

/-! ### Built-in formats -/

/-- The name of a built-in format. -/
def IsBuiltin (name : String) : Prop :=
  ∃ f, (name, f) ∈ builtins

theorem lookup_builtins_of_mem (h : (name, f) ∈ builtins) : builtins.lookup name = some f := by
  simp only [builtins, List.mem_cons, Prod.mk.injEq, List.not_mem_nil, or_false] at h
  rcases h with ⟨rfl, rfl⟩ | ⟨rfl, rfl⟩ | ⟨rfl, rfl⟩ | ⟨rfl, rfl⟩ <;> rfl

theorem isSome_lookup_builtins_iff : (builtins.lookup name).isSome ↔ IsBuiltin name := by
  constructor
  · intro h
    obtain ⟨f, hf⟩ := Option.isSome_iff_exists.1 h
    obtain ⟨before, after, heq, -⟩ := List.lookup_eq_some_iff.1 hf
    exact ⟨f, heq ▸ List.mem_append_right before List.mem_cons_self⟩
  · rintro ⟨f, hf⟩
    rw [lookup_builtins_of_mem hf]
    rfl

theorem lookup_builtins_of_not (h : ¬ IsBuiltin name) : builtins.lookup name = none := by
  rwa [← Option.not_isSome_iff_eq_none, isSome_lookup_builtins_iff]

/-! ### Registrations -/

/-- The formats after a registration; a refused one leaves them as they are. -/
def call (fs : Formatters) (c : String × Formatter) : Formatters :=
  (fs.register c.1 c.2).toOption.getD fs

/-- The formats after some registrations. -/
def after (calls : List (String × Formatter)) : Formatters :=
  calls.foldl call empty

/-- The last of some registrations of a name. -/
def IsLast (calls : List (String × Formatter)) (name : String) (f : Formatter) : Prop :=
  ∃ earlier later, calls = earlier ++ (name, f) :: later ∧ ∀ c ∈ later, c.1 ≠ name

theorem register_of_isBuiltin (fs : Formatters) (h : IsBuiltin name) (f : Formatter) :
    fs.register name f = .error (.config (.builtinFormatter name)) :=
  if_pos (isSome_lookup_builtins_iff.2 h)

theorem register_of_not_isBuiltin (fs : Formatters) (h : ¬ IsBuiltin name) (f : Formatter) :
    fs.register name f = .ok ⟨(name, f) :: fs.registered.filter (·.1 != name)⟩ :=
  if_neg (mt isSome_lookup_builtins_iff.1 h)

/-- A registration is refused for the names of built-in formats only. -/
theorem register_eq_error_iff {e : LintError} :
    fs.register name f = .error e ↔ IsBuiltin name ∧ e = .config (.builtinFormatter name) := by
  by_cases h : IsBuiltin name
  · rw [register_of_isBuiltin fs h]
    simp [h, eq_comm]
  · rw [register_of_not_isBuiltin fs h]
    simp [h]

theorem call_of_isBuiltin (fs : Formatters) (h : IsBuiltin name) (f : Formatter) :
    fs.call (name, f) = fs := by
  rw [call, register_of_isBuiltin fs h]
  rfl

theorem call_of_not_isBuiltin (fs : Formatters) (h : ¬ IsBuiltin name) (f : Formatter) :
    fs.call (name, f) = ⟨(name, f) :: fs.registered.filter (·.1 != name)⟩ := by
  rw [call, register_of_not_isBuiltin fs h]
  rfl

theorem after_concat (calls : List (String × Formatter)) (c : String × Formatter) :
    after (calls ++ [c]) = (after calls).call c :=
  List.foldl_concat ..

/-- A refused registration changes nothing, whatever follows it. -/
theorem after_of_isBuiltin (earlier later : List (String × Formatter)) (h : IsBuiltin name)
    (f : Formatter) : after (earlier ++ (name, f) :: later) = after (earlier ++ later) := by
  rw [after, after, List.foldl_append, List.foldl_append, List.foldl_cons,
    call_of_isBuiltin _ h]

/-- One registration more is the last of its name. -/
theorem isLast_concat_iff {other : String} :
    IsLast (calls ++ [(other, g)]) name f ↔
      other = name ∧ g = f ∨ other ≠ name ∧ IsLast calls name f := by
  constructor
  · rintro ⟨earlier, later, heq, hlater⟩
    -- The registration that is added is the last one itself or comes later than it.
    cases later using List.reverseRecOn with
    | nil =>
      left
      simpa using (List.append_inj' heq rfl).2
    | append_singleton later c =>
      rw [← List.cons_append, ← List.append_assoc] at heq
      obtain ⟨rfl, hc⟩ := List.append_inj' heq rfl
      obtain rfl := List.singleton_inj.1 hc
      right
      exact ⟨hlater (other, g) (by simp), earlier, later, rfl,
        fun c hc => hlater c (List.mem_append_left _ hc)⟩
  · rintro (⟨rfl, rfl⟩ | ⟨hne, earlier, later, rfl, hlater⟩)
    · exact ⟨calls, [], rfl, by simp⟩
    · refine ⟨earlier, later ++ [(other, g)], by simp, ?_⟩
      intro c hc
      rcases List.mem_append.1 hc with hc | hc
      · exact hlater c hc
      · rwa [List.mem_singleton.1 hc]

/-- A name that was registered has a last registration. -/
theorem exists_isLast (h : (name, f) ∈ calls) : ∃ g, IsLast calls name g := by
  induction calls using List.reverseRecOn with
  | nil => cases h
  | append_singleton calls c ih =>
    obtain ⟨other, g⟩ := c
    by_cases hother : other = name
    · exact ⟨g, isLast_concat_iff.2 (.inl ⟨hother, rfl⟩)⟩
    · have hearlier : (name, f) ∈ calls := by
        simpa [Ne.symm hother] using h
      obtain ⟨g', hg'⟩ := ih hearlier
      exact ⟨g', isLast_concat_iff.2 (.inr ⟨hother, hg'⟩)⟩

theorem IsLast.mem (h : IsLast calls name f) : (name, f) ∈ calls := by
  obtain ⟨earlier, later, rfl, -⟩ := h
  exact List.mem_append_right earlier List.mem_cons_self

/-- What is registered are the last formats of all names that are not built in, each of them
once. -/
structure Reflects (fs : Formatters) (calls : List (String × Formatter)) : Prop where
  distinct : (fs.registered.map (·.1)).Nodup
  lookup_iff : ∀ name f, fs.registered.lookup name = some f ↔
    ¬ IsBuiltin name ∧ IsLast calls name f

/-- One registration more. -/
theorem Reflects.call (h : Reflects fs calls) (c : String × Formatter) :
    Reflects (fs.call c) (calls ++ [c]) := by
  obtain ⟨other, g⟩ := c
  by_cases hother : IsBuiltin other
  · -- The call is refused, and it is none of a name that is not built in.
    rw [call_of_isBuiltin fs hother]
    refine ⟨h.distinct, fun name f => ?_⟩
    rw [h.lookup_iff, isLast_concat_iff]
    refine and_congr_right fun hname => ?_
    have hne : other ≠ name := by
      rintro rfl
      exact hname hother
    simp [hne]
  · rw [call_of_not_isBuiltin fs hother]
    constructor
    · rw [List.map_cons, List.nodup_cons]
      refine ⟨?_, h.distinct.sublist (List.filter_sublist.map _)⟩
      intro hmem
      obtain ⟨p, hp, heq⟩ := List.mem_map.1 hmem
      simpa [heq] using (List.mem_filter.1 hp).2
    · intro name f
      rw [isLast_concat_iff, List.lookup_cons]
      by_cases hname : name = other
      · subst hname
        simp [hother]
      · rw [beq_false_of_ne hname, Catalog.lookup_filter_ne hname, h.lookup_iff]
        simp [Ne.symm hname]

/-- Any number of registrations. -/
theorem reflects_after (calls : List (String × Formatter)) : Reflects (after calls) calls := by
  induction calls using List.reverseRecOn with
  | nil =>
    refine ⟨List.nodup_nil, fun name f => ?_⟩
    simp [after, empty, IsLast]
  | append_singleton calls c ih =>
    rw [after_concat]
    exact ih.call c

theorem Reflects.mem_keys_iff (h : Reflects fs calls) :
    name ∈ fs.registered.map (·.1) ↔ ¬ IsBuiltin name ∧ ∃ f, (name, f) ∈ calls := by
  have hlookup : name ∈ fs.registered.map (·.1) ↔ ∃ f, fs.registered.lookup name = some f := by
    constructor
    · intro hmem
      obtain ⟨p, hp, rfl⟩ := List.mem_map.1 hmem
      rw [← Option.isSome_iff_exists, Option.isSome_iff_ne_none, Ne, List.lookup_eq_none_iff]
      intro hnone
      simpa using hnone p hp
    · rintro ⟨f, hf⟩
      obtain ⟨before, behind, heq, -⟩ := List.lookup_eq_some_iff.1 hf
      rw [heq]
      simp
  rw [hlookup]
  simp only [h.lookup_iff, exists_and_left]
  refine and_congr_right fun _ => ⟨?_, ?_⟩
  · rintro ⟨f, hf⟩
    exact ⟨f, hf.mem⟩
  · rintro ⟨f, hf⟩
    exact exists_isLast hf

/-! ### Names -/

/-- The names of all formats are in strict order. -/
theorem Reflects.pairwise_names (h : Reflects fs calls) : fs.names.Pairwise (· < ·) := by
  refine Naming.pairwise_lt_mergeSort ?_
  rw [List.nodup_append]
  refine ⟨by decide, h.distinct, ?_⟩
  rintro name hname _ hkey rfl
  obtain ⟨⟨_, f⟩, hf, rfl⟩ := List.mem_map.1 hname
  exact (h.mem_keys_iff.1 hkey).1 ⟨f, hf⟩

theorem Reflects.mem_names_iff (h : Reflects fs calls) :
    name ∈ fs.names ↔ IsBuiltin name ∨ ∃ f, (name, f) ∈ calls := by
  have hbuiltin : name ∈ builtins.map (·.1) ↔ IsBuiltin name := by
    simp [IsBuiltin]
  rw [names, List.mem_mergeSort, List.mem_append, hbuiltin, h.mem_keys_iff]
  tauto

/-! ### Modules -/

/-- The file of a specifier: the one that it names as seen from the base directory, and only if that
is no file the one that it names as it is. -/
inductive Chosen (files : FileTree) (specifier : String) (base? : Option Path) : Path → Prop
  | fromBase {base : Path} (hbase : base? = some base)
      (h : files.isFile (base.join ⟨specifier⟩) = true) :
      Chosen files specifier base? (base.join ⟨specifier⟩)
  | asIs (hbase : ∀ base, base? = some base → files.isFile (base.join ⟨specifier⟩) = false)
      (h : files.isFile ⟨specifier⟩ = true) : Chosen files specifier base? ⟨specifier⟩

/-- An absolute path is the same from every directory, so it makes no difference that it is looked
for once only. -/
theorem find?_candidates (name : String) (base? : Option Path) :
    (candidates name base?).find? files.isFile =
      ((base?.map (·.join ⟨name⟩)).filter files.isFile).or ((some ⟨name⟩).filter files.isFile) := by
  cases base? with
  | none =>
    rw [candidates, List.find?_singleton]
    rfl
  | some base =>
    by_cases habsolute : Path.isAbsolute ⟨name⟩ = true
    · have hjoin : base.join ⟨name⟩ = ⟨name⟩ := if_pos habsolute
      have hcandidates : candidates name (some base) = [⟨name⟩] := if_pos habsolute
      rw [hcandidates, Option.map_some, hjoin, Option.or_self, List.find?_singleton]
      rfl
    · have hcandidates : candidates name (some base) = [base.join ⟨name⟩, ⟨name⟩] :=
        if_neg habsolute
      rw [hcandidates, List.find?_cons, List.find?_singleton, Option.map_some]
      cases hfile : files.isFile (base.join ⟨name⟩) <;> simp [Option.filter, hfile]

theorem find?_candidates_eq_some_iff :
    (candidates name base?).find? files.isFile = some path ↔ Chosen files name base? path := by
  rw [find?_candidates, Option.or_eq_some_iff, Option.filter_eq_some_iff, Option.filter_eq_none_iff,
    Option.filter_eq_some_iff, Option.map_eq_some_iff]
  constructor
  · rintro (⟨⟨base, rfl, rfl⟩, hfile⟩ | ⟨hbase, heq, hfile⟩)
    · exact .fromBase rfl hfile
    · cases heq
      refine .asIs ?_ hfile
      rintro base rfl
      simpa using hbase _ rfl
  · intro h
    cases h with
    | fromBase hbase hfile => exact .inl ⟨⟨_, hbase, rfl⟩, hfile⟩
    | asIs hbase hfile =>
      refine .inr ⟨?_, rfl, hfile⟩
      rintro _ hmap
      obtain ⟨base, hsome, rfl⟩ := Option.map_eq_some_iff.1 hmap
      simp [hbase base hsome]

/-- What a module file gives: its format, or an error if it does not load. -/
inductive Loads (files : FileTree) (path : Path) : Except LintError Formatter → Prop
  | loaded {t : Template} (h : Template.load files path = .ok t) : Loads files path (.ok t.format)
  | broken {e : RuleError} (h : Template.load files path = .error e) :
      Loads files path (.error (.invalidModule e))

/-- A specifier stands for no file. -/
def Missing (files : FileTree) (specifier : String) (base? : Option Path) : Prop :=
  (∀ base, base? = some base → files.isFile (base.join ⟨specifier⟩) = false) ∧
    files.isFile ⟨specifier⟩ = false

theorem find?_candidates_eq_none_iff :
    (candidates name base?).find? files.isFile = none ↔ Missing files name base? := by
  rw [find?_candidates, Option.or_eq_none_iff, Option.filter_eq_none_iff,
    Option.filter_eq_none_iff, Missing]
  simp

/-! ### Formats that are found -/

theorem resolve_of_mem_builtins (fs : Formatters) (files : FileTree) (base? : Option Path)
    (h : (name, f) ∈ builtins) : fs.resolve files name base? = .ok f := by
  rw [resolve, lookup_builtins_of_mem h]

theorem Reflects.resolve_of_isLast (h : Reflects fs calls) (hname : ¬ IsBuiltin name)
    (hf : IsLast calls name f) (files : FileTree) (base? : Option Path) :
    fs.resolve files name base? = .ok f := by
  rw [resolve, lookup_builtins_of_not hname, (h.lookup_iff name f).2 ⟨hname, hf⟩]

/-- No format is registered under a specifier that was not registered. -/
theorem Reflects.lookup_eq_none (h : Reflects fs calls) (hcalls : ∀ c ∈ calls, c.1 ≠ name) :
    fs.registered.lookup name = none := by
  rw [Option.eq_none_iff_forall_ne_some]
  intro f hf
  exact hcalls _ ((h.lookup_iff name f).1 hf).2.mem rfl

/-- The file of a specifier that is no name is loaded, whether this succeeds or not. -/
theorem Reflects.loads_of_chosen (h : Reflects fs calls) (hname : ¬ IsBuiltin name)
    (hcalls : ∀ c ∈ calls, c.1 ≠ name) (hpath : Chosen files name base? path) :
    Loads files path (fs.resolve files name base?) := by
  rw [resolve, lookup_builtins_of_not hname, h.lookup_eq_none hcalls,
    find?_candidates_eq_some_iff.2 hpath]
  dsimp only
  cases hload : Template.load files path with
  | error e => exact .broken hload
  | ok t => exact .loaded hload

/-- A specifier that is no name is not found exactly if there is no file. -/
theorem Reflects.not_found_iff (h : Reflects fs calls) (hname : ¬ IsBuiltin name)
    (hcalls : ∀ c ∈ calls, c.1 ≠ name) :
    fs.resolve files name base? = .error (.formatterNotFound name) ↔
      Missing files name base? := by
  rw [← find?_candidates_eq_none_iff]
  constructor
  · intro hresolve
    cases hfind : (candidates name base?).find? files.isFile with
    | none => rfl
    | some path =>
      -- A file that does not load is an error of another kind.
      have hloads := h.loads_of_chosen hname hcalls (find?_candidates_eq_some_iff.1 hfind)
      rw [hresolve] at hloads
      cases hloads
  · intro hfind
    rw [resolve, lookup_builtins_of_not hname, h.lookup_eq_none hcalls, hfind]

/-- After any registrations a built-in name stands for its format in every tree; a registration is
refused for such a name only, and it is as if it had not been tried. Any other name that was
registered stands for the format registered last, in every tree. A specifier that is no name stands
for a file, the one seen from the base directory first, and is not found exactly if there is none.
The names are those that are built in or were registered, in strict order. -/
theorem resolve_after (calls : List (String × Formatter)) :
    (∀ name f, (name, f) ∈ builtins → ∀ files base?,
      (after calls).resolve files name base? = .ok f) ∧
    (∀ name f e, (after calls).register name f = .error e ↔
      IsBuiltin name ∧ e = .config (.builtinFormatter name)) ∧
    (∀ earlier name f later, calls = earlier ++ (name, f) :: later → IsBuiltin name →
      after calls = after (earlier ++ later)) ∧
    (∀ name f, ¬ IsBuiltin name → IsLast calls name f → ∀ files base?,
      (after calls).resolve files name base? = .ok f) ∧
    (∀ name, ¬ IsBuiltin name → (∀ c ∈ calls, c.1 ≠ name) → ∀ files base?,
      (∀ path, Chosen files name base? path →
        Loads files path ((after calls).resolve files name base?)) ∧
      ((after calls).resolve files name base? = .error (.formatterNotFound name) ↔
        Missing files name base?)) ∧
    (after calls).names.Pairwise (· < ·) ∧
    ∀ name, name ∈ (after calls).names ↔ IsBuiltin name ∨ ∃ f, (name, f) ∈ calls := by
  have hreflects := reflects_after calls
  refine ⟨?_, fun _ _ _ => register_eq_error_iff, ?_, ?_, ?_, hreflects.pairwise_names,
    fun _ => hreflects.mem_names_iff⟩
  · intro name f hmem files base?
    exact resolve_of_mem_builtins _ files base? hmem
  · rintro earlier name f later rfl hname
    exact after_of_isBuiltin earlier later hname f
  · intro name f hname hf files base?
    exact hreflects.resolve_of_isLast hname hf files base?
  · intro name hname hcalls files base?
    exact ⟨fun path hpath => hreflects.loads_of_chosen hname hcalls hpath,
      hreflects.not_found_iff hname hcalls⟩

/-- A name that is registered twice, and a built-in one. -/
def repeatedCalls : List (String × Formatter) :=
  [("mine", .compact), ("stylish", .json), ("mine", .unix)]

/-- A directory with a file under a built-in name, one under a registered name, and one that is no
template. -/
def misleadingFiles : FileTree where
  entries :=
    [(["d"], .directory), (["d", "stylish"], .file "\x7b\x7d".toUTF8),
     (["d", "mine"], .file "\x7b\x7d".toUTF8), (["d", "broken"], .file "?".toUTF8)]
  here := []

theorem repeatedCalls_resolve_after :
    (¬ IsBuiltin "mine" ∧ IsLast repeatedCalls "mine" Formatter.unix) ∧
      (after repeatedCalls).resolve misleadingFiles "mine" (some ⟨"/d"⟩) = .ok Formatter.unix ∧
      ("stylish", Formatter.stylish) ∈ builtins ∧
      (after repeatedCalls).resolve misleadingFiles "stylish" (some ⟨"/d"⟩) =
        .ok Formatter.stylish ∧
      after repeatedCalls = after [("mine", .compact), ("mine", .unix)] ∧
      (¬ IsBuiltin "broken" ∧ ∀ c ∈ repeatedCalls, c.1 ≠ "broken") ∧
      Chosen misleadingFiles "broken" (some ⟨"/d"⟩) ⟨"/d/broken"⟩ ∧
      Loads misleadingFiles ⟨"/d/broken"⟩
        ((after repeatedCalls).resolve misleadingFiles "broken" (some ⟨"/d"⟩)) := by
  have hmine : ¬ IsBuiltin "mine" := by simp [IsBuiltin, builtins]
  have hlast : IsLast repeatedCalls "mine" Formatter.unix :=
    ⟨[("mine", .compact), ("stylish", .json)], [], rfl, by simp⟩
  have hstylish : ("stylish", Formatter.stylish) ∈ builtins := by simp [builtins]
  have hbroken : ¬ IsBuiltin "broken" := by simp [IsBuiltin, builtins]
  have hcalls : ∀ c ∈ repeatedCalls, c.1 ≠ "broken" := by simp [repeatedCalls]
  have hjoin : Path.join ⟨"/d"⟩ ⟨"broken"⟩ = ⟨"/d/broken"⟩ := by rfl
  have hchosen : Chosen misleadingFiles "broken" (some ⟨"/d"⟩) ⟨"/d/broken"⟩ := by
    rw [← hjoin]
    exact .fromBase rfl (by decide +kernel)
  obtain ⟨hbuiltin, -, hrefused, hregistered, hmodule, -⟩ := resolve_after repeatedCalls
  exact ⟨⟨hmine, hlast⟩, hregistered _ _ hmine hlast _ _, hstylish, hbuiltin _ _ hstylish _ _,
    hrefused [("mine", .compact)] _ _ [("mine", .unix)] rfl ⟨_, hstylish⟩, ⟨hbroken, hcalls⟩,
    hchosen, (hmodule _ hbroken hcalls _ _).1 _ hchosen⟩

end ProseLinter.Formatters
