import ProseLinter.Proofs.Files.Directory
import ProseLinter.Proofs.Loading.NameAndPath
import ProseLinter.Proofs.Loading.Containment

/-!
# The rules of a directory

The rules of a directory are those of its module files, one for each of them and in the order of
their names, however the file system lists them. When one of the files has no rule, the directory
has the error of the first such file. A file is left out, without an error, when the path of the
directory and its name are together longer than a path may be.

* `Resolver.IsModuleFile` : the files of a directory that are modules.
* `Resolver.ResolvesInOrder` : what comes of a directory, file by file.
* `Resolver.directory_resolves_in_order` : the files that count, for each order of the listing.
* `Resolver.long_directory_leaves_out_module` : a directory whose module is left out.
-/

namespace ProseLinter

/-! ### The order of paths -/

namespace Path

variable {dir : Path} {m n name : String}

theorem componentLt_self (c : Component) : componentLt c c = false := by
  cases c <;> simp [componentLt]

/-- Behind the same components the order is that of the rest. -/
theorem componentsLt_append (front back back' : List Component) :
    componentsLt (front ++ back) (front ++ back') = componentsLt back back' := by
  induction front with
  | nil => rfl
  | cons c front ih => simp [componentsLt, componentLt_self, ih]

/-- Names behind the same path are ordered by themselves. -/
theorem lt_join (hm : IsName m) (hn : IsName n) :
    (dir.join ⟨m⟩).lt (dir.join ⟨n⟩) = decide (m < n) := by
  rw [lt, components_join dir hm, components_join dir hn, componentsLt_append]
  simp [componentsLt, componentLt]

/-- A name has the same extension behind a path as alone. -/
theorem extension?_join (h : IsName name) : (dir.join ⟨name⟩).extension? = (splitName name).2 := by
  rw [extension?, fileName?_join dir h, Option.bind_some]

end Path

namespace Resolver

variable {files files' : FileTree} {dir : Path} {loc : Location} {name : String}
  {names : List String}

/-- A file of a directory that is a module, going by its extension. -/
structure IsModuleFile (files : FileTree) (loc : Location) (name : String) : Prop where
  isFile : ∃ content, files.entry? (loc ++ [name]) = some (.file content)
  extension : ∃ ext ∈ Naming.moduleExtensions, (Path.splitName name).2 = some ext

/-- A path of a directory with a name behind it is not too long. -/
def Fits (dir : Path) (name : String) : Prop :=
  (dir.join ⟨name⟩).text.utf8ByteSize < FileTree.pathLimit

instance : Decidable (Fits dir name) :=
  inferInstanceAs (Decidable (_ < _))

/-- The rule of a file of a directory. -/
structure IsRuleOf (files : FileTree) (dir : Path) (loc : Location) (name : String)
    (found : ResolvedRule) : Prop where
  resolvePath_eq : resolvePath files (dir.join ⟨name⟩) = .ok found
  origin_eq : found.origin = .file (Path.ofLocation (loc ++ [name]))

/-- A directory is resolved by resolving its files of some names in the order of the names. -/
structure ResolvesInOrder (files : FileTree) (dir : Path) (loc : Location)
    (names : List String) : Prop where
  increasing : names.Pairwise (· < ·)
  one_each : ∀ rules, resolveDirectory files dir = .ok rules →
    List.Forall₂ (IsRuleOf files dir loc) names rules
  first_error : ∀ err, resolveDirectory files dir = .error err →
    ∃ before failing after, names = before ++ failing :: after ∧
      (∀ earlier ∈ before, ∃ found, IsRuleOf files dir loc earlier found) ∧
      resolvePath files (dir.join ⟨failing⟩) = .error err

/-! ### Module files -/

/-- The names of the module files to which a path of the directory leads, in order. -/
def moduleNames (files : FileTree) (dir : Path) (loc : Location) : List String :=
  ((files.namesIn loc).filter fun name =>
    Naming.hasModuleExtension (dir.join ⟨name⟩) && files.isFile (dir.join ⟨name⟩)).mergeSort

theorem hasModuleExtension_join_iff (h : Path.IsName name) :
    Naming.hasModuleExtension (dir.join ⟨name⟩) = true ↔
      ∃ ext ∈ Naming.moduleExtensions, (Path.splitName name).2 = some ext := by
  rw [Naming.hasModuleExtension, Path.extension?_join h]
  cases (Path.splitName name).2 <;> simp

/-- The names of the module files of a directory, in the order of the tree. -/
def modulesIn (files : FileTree) (loc : Location) : List String :=
  (files.namesIn loc).filter fun name =>
    files.hasFile (loc ++ [name]) && (Path.splitName name).2.any Naming.moduleExtensions.contains

theorem isModuleFile_iff_mem (h : files.WellFormed) :
    IsModuleFile files loc name ↔ name ∈ modulesIn files loc := by
  have hextension : (Path.splitName name).2.any Naming.moduleExtensions.contains = true ↔
      ∃ ext ∈ Naming.moduleExtensions, (Path.splitName name).2 = some ext := by
    cases (Path.splitName name).2 <;> simp
  rw [modulesIn, List.mem_filter, Bool.and_eq_true, FileTree.hasFile_iff, hextension,
    FileTree.mem_namesIn_iff h]
  constructor
  · rintro ⟨⟨content, hcontent⟩, hextension⟩
    exact ⟨⟨_, hcontent⟩, ⟨content, hcontent⟩, hextension⟩
  · rintro ⟨-, hfile, hextension⟩
    exact ⟨hfile, hextension⟩

section Directory

variable (h : files.WellFormed) (hdir : files.resolve dir = .ok loc)
  (hentry : files.entry? loc = some .directory)

include h

theorem isEntryName_of_mem_namesIn (hname : name ∈ files.namesIn loc) :
    FileTree.IsEntryName name := by
  obtain ⟨e, he⟩ := (FileTree.mem_namesIn_iff h).1 hname
  exact h.isEntryName_of_mem (Option.isSome_iff_exists.2 ⟨e, he⟩) List.mem_concat_self

theorem increasing_moduleNames (dir : Path) (loc : Location) :
    (moduleNames files dir loc).Pairwise (· < ·) :=
  Naming.pairwise_lt_mergeSort ((h.nodup_namesIn loc).filter _)

include hdir hentry

/-- The module files of a directory are those whose path is not too long. -/
theorem mem_moduleNames_iff :
    name ∈ moduleNames files dir loc ↔ IsModuleFile files loc name ∧ Fits dir name := by
  rw [moduleNames, List.mem_mergeSort, List.mem_filter, Bool.and_eq_true]
  constructor
  · rintro ⟨hmem, hextension, hfile⟩
    have hname := isEntryName_of_mem_namesIn h hmem
    obtain ⟨hfits, hcontent⟩ := (FileTree.isFile_join_iff hdir hentry hname).1 hfile
    exact ⟨⟨hcontent, (hasModuleExtension_join_iff hname.isName).1 hextension⟩, hfits⟩
  · rintro ⟨⟨⟨content, hcontent⟩, hextension⟩, hfits⟩
    have hmem := (FileTree.mem_namesIn_iff h).2 ⟨_, hcontent⟩
    have hname := isEntryName_of_mem_namesIn h hmem
    exact ⟨hmem, (hasModuleExtension_join_iff hname.isName).2 hextension,
      (FileTree.isFile_join_iff hdir hentry hname).2 ⟨hfits, content, hcontent⟩⟩

theorem moduleFiles_eq :
    moduleFiles files dir =
      .ok ((moduleNames files dir loc).map fun name => dir.join ⟨name⟩) := by
  have hchildren := FileTree.children_eq_ok_iff.2 ⟨loc, hdir, hentry, rfl⟩
  rw [moduleFiles, hchildren]
  change Except.ok _ = _
  rw [List.filter_map, moduleNames, List.map_mergeSort]
  · rfl
  · -- The paths are in the order of their names.
    intro m hm n hn
    have hmname := isEntryName_of_mem_namesIn h (List.mem_of_mem_filter hm)
    have hnname := isEntryName_of_mem_namesIn h (List.mem_of_mem_filter hn)
    rw [Path.lt_join hnname.isName hmname.isName]
    simp [← String.not_lt]

theorem resolveDirectory_eq :
    resolveDirectory files dir =
      (moduleNames files dir loc).mapM fun name => resolvePath files (dir.join ⟨name⟩) := by
  rw [resolveDirectory, moduleFiles_eq h hdir hentry]
  change List.mapM _ (List.map _ _) = _
  rw [List.mapM_map, Function.comp_def]

/-- The rule of a module file comes from the place of the file. -/
theorem isRuleOf_of_resolvePath {found : ResolvedRule}
    (hname : name ∈ moduleNames files dir loc)
    (hfound : resolvePath files (dir.join ⟨name⟩) = .ok found) :
    IsRuleOf files dir loc name found := by
  rw [moduleNames, List.mem_mergeSort, List.mem_filter, Bool.and_eq_true] at hname
  obtain ⟨hmem, -, hfile⟩ := hname
  refine ⟨hfound, ?_⟩
  have hplace := FileTree.resolve_join hdir hentry (isEntryName_of_mem_namesIn h hmem) hfile
  rw [resolvePath_of_moduleFile (Naming.moduleFile_of_isFile hfile) hfile] at hfound
  split at hfound
  · have hkey := (loadFile_map_name hfound "").1
    rw [Naming.canonicalOrSelf, FileTree.canonical, hplace] at hkey
    exact congrArg Prod.snd hkey
  · cases hfound

theorem resolvesInOrder_moduleNames :
    ResolvesInOrder files dir loc (moduleNames files dir loc) where
  increasing := increasing_moduleNames h dir loc
  one_each rules hrules := by
    rw [resolveDirectory_eq h hdir hentry] at hrules
    -- A rule belongs to one of the names, so it comes from the place of that file.
    have hpairs := (List.forall₂_and_left (p := (· ∈ moduleNames files dir loc)) _ _).2
      ⟨fun name hname => hname, forall₂_of_mapM hrules⟩
    exact hpairs.imp fun name found hpair =>
      isRuleOf_of_resolvePath h hdir hentry hpair.1 hpair.2
  first_error err herr := by
    rw [resolveDirectory_eq h hdir hentry, mapM_eq_error_iff] at herr
    obtain ⟨before, failing, after, hnames, hbefore, hfailing⟩ := herr
    refine ⟨before, failing, after, hnames, fun earlier hearlier => ?_, hfailing⟩
    obtain ⟨found, hfound⟩ := hbefore earlier hearlier
    refine ⟨found, isRuleOf_of_resolvePath h hdir hentry ?_ hfound⟩
    rw [hnames]
    exact List.mem_append_left _ hearlier

end Directory

/-! ### The order of the listing -/

/-- A path at which nothing is listed gives the error about that. -/
theorem resolveDirectory_eq_error {fault : FileFault} (h : files.children dir = .error fault) :
    resolveDirectory files dir = .error (.file dir fault) := by
  rw [resolveDirectory, moduleFiles, h]
  rfl

section Relisted

variable (hr : files.Relisted files') (h : files.WellFormed)

include hr h

theorem resolvePath_of_relisted (p : Path) : resolvePath files p = resolvePath files' p := by
  have hisFile (q : Path) : files.isFile q = files'.isFile q := (hr.sameAt h q).isFile_eq
  have hisDirectory (q : Path) : files.isDirectory q = files'.isDirectory q := by
    rw [FileTree.isDirectory, FileTree.isDirectory, (hr.sameAt h q).find?_eq]
  have hloadFile (name : String) (q : Path) : loadFile files name q = loadFile files' name q :=
    loadFile_congr ⟨hr.sameAt h _, hr.sameAt h _⟩ name
  simp only [resolvePath, hisFile, hisDirectory, hloadFile]

/-- The names are sorted, so the order in which they were listed does not matter. -/
theorem moduleNames_of_relisted (dir : Path) (loc : Location) :
    moduleNames files dir loc = moduleNames files' dir loc := by
  have hincreasing := increasing_moduleNames h dir loc
  refine hincreasing.eq_of_mem_iff (increasing_moduleNames (hr.wellFormed h) dir loc) fun name => ?_
  have hisFile : files.isFile = files'.isFile := funext fun q => (hr.sameAt h q).isFile_eq
  rw [moduleNames, moduleNames, hisFile, List.mem_mergeSort, List.mem_mergeSort]
  exact ((hr.namesIn_perm loc).filter _).mem_iff

/-- The rules of a directory do not depend on the order in which its entries are listed. -/
theorem resolveDirectory_of_relisted (dir : Path) :
    resolveDirectory files dir = resolveDirectory files' dir := by
  cases hchildren : files.children dir with
  | error fault =>
    rw [resolveDirectory_eq_error hchildren,
      resolveDirectory_eq_error (hr.children_eq_error h hchildren)]
  | ok all =>
    obtain ⟨loc, hdir, hentry, -⟩ := FileTree.children_eq_ok_iff.1 hchildren
    have hdir' := hr.resolve_eq h dir ▸ hdir
    have hentry' := hr.entry?_eq h loc ▸ hentry
    rw [resolveDirectory_eq h hdir hentry, resolveDirectory_eq (hr.wellFormed h) hdir' hentry',
      moduleNames_of_relisted hr h, funext fun p => resolvePath_of_relisted hr h p]

end Relisted

/-- What comes of a directory does not depend on the order in which the file system lists it. Its
files are resolved in the order of their names, and one that has no rule ends this with its error.
The files that count are the modules whose path is not too long; if none is, all modules count. -/
theorem directory_resolves_in_order (h : files.WellFormed) :
    (∀ files', files.Relisted files' → ∀ dir,
      resolveDirectory files dir = resolveDirectory files' dir) ∧
    ∀ dir loc, files.resolve dir = .ok loc → files.entry? loc = some .directory →
      ∃ names, ResolvesInOrder files dir loc names ∧
        (∀ name, name ∈ names ↔ IsModuleFile files loc name ∧ Fits dir name) ∧
        ((∀ name, IsModuleFile files loc name → Fits dir name) →
          ∀ name, name ∈ names ↔ IsModuleFile files loc name) := by
  refine ⟨fun files' hr dir => resolveDirectory_of_relisted hr h dir, fun dir loc hdir hentry => ?_⟩
  have hmem (name : String) : name ∈ moduleNames files dir loc ↔
      IsModuleFile files loc name ∧ Fits dir name := mem_moduleNames_iff h hdir hentry
  refine ⟨_, resolvesInOrder_moduleNames h hdir hentry, hmem, fun hfits name => ?_⟩
  rw [hmem name]
  exact ⟨fun hname => hname.1, fun hname => ⟨hname, hfits name hname⟩⟩

/-! ### A directory whose entries are listed in no order -/

/-- A module file with a pattern. -/
def patternFile : Entry :=
  .file "\x7b\"patterns\":[\"x\"]\x7d".toUTF8

/-- A directory with two modules, of which the later one is listed first, and with a text file and a
directory that is called like a module. -/
def jumbled : FileTree :=
  ⟨[(["r"], .directory), (["r", "b.json"], patternFile), (["r", "notes.txt"], .file "x".toUTF8),
    (["r", "c.json"], .directory), (["r", "a.jsonc"], patternFile)], []⟩

theorem wellFormed_jumbled : jumbled.WellFormed := by
  decide

theorem isModuleFile_jumbled_iff :
    IsModuleFile jumbled ["r"] name ↔ name ∈ ["b.json", "a.jsonc"] := by
  rw [isModuleFile_iff_mem wellFormed_jumbled,
    show modulesIn jumbled ["r"] = ["b.json", "a.jsonc"] by decide +kernel]

/-- The rules of the directory come in the order of their names, also if its entries are listed the
other way round. -/
theorem jumbled_resolves_in_order :
    ∃ rules, resolveDirectory jumbled ⟨"r"⟩ = .ok rules ∧
      resolveDirectory ⟨jumbled.entries.reverse, []⟩ ⟨"r"⟩ = .ok rules ∧
      List.Forall₂ (IsRuleOf jumbled ⟨"r"⟩ ["r"]) ["a.jsonc", "b.json"] rules := by
  obtain ⟨hrelisted, hdirectory⟩ := directory_resolves_in_order wellFormed_jumbled
  obtain ⟨names, horder, -, hall⟩ := hdirectory ⟨"r"⟩ ["r"] (by decide +kernel) rfl
  have hnames : names = ["a.jsonc", "b.json"] := by
    have hsorted : ["a.jsonc", "b.json"].Pairwise (· < ·) := by decide +kernel
    have hfits : ∀ name ∈ ["b.json", "a.jsonc"], Fits ⟨"r"⟩ name := by decide +kernel
    refine horder.increasing.eq_of_mem_iff hsorted fun name => ?_
    rw [hall fun name hname => hfits name (isModuleFile_jumbled_iff.1 hname),
      isModuleFile_jumbled_iff]
    simp [or_comm]
  have hrelist := hrelisted ⟨jumbled.entries.reverse, []⟩
    ⟨rfl, (List.reverse_perm _).symm⟩ ⟨"r"⟩
  have hgood : ∀ name ∈ ["a.jsonc", "b.json"],
      (resolvePath jumbled ((Path.mk "r").join ⟨name⟩)).toOption.isSome = true := by
    decide +kernel
  -- There is no first error, for both files have rules.
  cases hrules : resolveDirectory jumbled ⟨"r"⟩ with
  | ok rules =>
    exact ⟨rules, rfl, hrelist.symm.trans hrules, hnames ▸ horder.one_each rules hrules⟩
  | error err =>
    obtain ⟨before, failing, after, hsplit, -, hfailing⟩ := horder.first_error err hrules
    have hmem : failing ∈ ["a.jsonc", "b.json"] := by
      rw [← hnames, hsplit]
      exact List.mem_append_cons_self
    have hsome := hgood failing hmem
    rw [hfailing] at hsome
    cases hsome

/-! ### A directory with a long path -/

/-- The path of a directory, in as many steps that lead nowhere else. -/
def dotted : Nat → String
  | 0 => "r"
  | n + 1 => "./" ++ dotted n

theorem parts_dotted (n : Nat) : (Path.mk (dotted n)).parts = List.replicate n "." ++ ["r"] := by
  induction n with
  | zero => rfl
  | succ n ih =>
    rw [dotted, Path.parts, String.toList_append]
    change String.ofList ['.'] :: (Path.mk (dotted n)).parts = _
    rw [ih]
    rfl

theorem utf8ByteSize_dotted (n : Nat) : (dotted n).utf8ByteSize = 2 * n + 1 := by
  induction n with
  | zero => rfl
  | succ n ih =>
    rw [dotted, String.utf8ByteSize_append, ih]
    change 2 + (2 * n + 1) = _
    omega

/-- A directory with one module. -/
def single : FileTree :=
  ⟨[(["r"], .directory), (["r", "a.json"], patternFile)], []⟩

theorem wellFormed_single : single.WellFormed := by
  decide

theorem isModuleFile_single_iff : IsModuleFile single ["r"] name ↔ name = "a.json" := by
  rw [isModuleFile_iff_mem wellFormed_single,
    show modulesIn single ["r"] = ["a.json"] by decide +kernel, List.mem_singleton]

theorem steps_dotted (n : Nat) :
    (Path.mk (dotted n)).isAbsolute = false ∧
      (Path.mk (dotted n)).steps = List.replicate n "." ++ ["r"] := by
  have habsolute : (Path.mk (dotted n)).isAbsolute = false := by
    cases n with
    | zero => decide
    | succ n => exact Path.isAbsolute_of_parts (parts_dotted (n + 1))
  exact ⟨habsolute, by rw [Path.steps, habsolute, if_neg Bool.false_ne_true, parts_dotted]⟩

theorem dotted_ne_empty (n : Nat) : dotted n ≠ "" := by
  intro hempty
  have hsize := utf8ByteSize_dotted n
  rw [hempty] at hsize
  cases hsize

theorem not_mem_dotted (n : Nat) : '\x00' ∉ (dotted n).toList := by
  induction n with
  | zero => decide
  | succ n ih =>
    rw [dotted, String.toList_append, List.mem_append]
    exact not_or_intro (by decide) ih

/-- However many steps lead nowhere else, the path is one of the directory unless it is too long. -/
theorem resolve_dotted {n : Nat} (h : 2 * n + 1 < FileTree.pathLimit) :
    single.resolve ⟨dotted n⟩ = .ok ["r"] := by
  obtain ⟨habsolute, hsteps⟩ := steps_dotted n
  have hidle : Path.AllIdle (List.replicate n ".") := by
    intro part hpart
    rw [List.eq_of_mem_replicate hpart]
    decide
  rw [FileTree.resolve_eq_ok_iff, FileTree.refusal?_eq_none_iff, FileTree.start, hsteps,
    habsolute]
  refine ⟨⟨not_mem_dotted n, dotted_ne_empty n, by rwa [utf8ByteSize_dotted]⟩, ?_⟩
  exact (FileTree.follow_append (FileTree.follow_of_allIdle hidle rfl)).trans (by decide +kernel)

/-- With the name of the module behind it the path may be too long. -/
theorem not_fits_dotted {n : Nat} (h : FileTree.pathLimit ≤ 2 * n + 7) :
    ¬ Fits ⟨dotted n⟩ "a.json" := by
  have hname : Path.IsName "a.json" := Path.isName_iff.2 (by decide)
  have hlong := FileTree.le_utf8ByteSize_join (p := ⟨dotted n⟩) (dotted_ne_empty n) hname
  rw [utf8ByteSize_dotted, show "a.json".utf8ByteSize = 6 from rfl] at hlong
  rw [Fits]
  omega

/-- A directory whose path is just short enough: its module is left out without an error, and so its
rules are not those of its modules. -/
theorem long_directory_leaves_out_module :
    single.WellFormed ∧ single.resolve ⟨dotted 2046⟩ = .ok ["r"] ∧
      IsModuleFile single ["r"] "a.json" ∧ resolveDirectory single ⟨dotted 2046⟩ = .ok [] ∧
      ¬ ∃ names, ResolvesInOrder single ⟨dotted 2046⟩ ["r"] names ∧
        ∀ name, name ∈ names ↔ IsModuleFile single ["r"] name := by
  have hmodule : IsModuleFile single ["r"] "a.json" := isModuleFile_single_iff.2 rfl
  have hdir : single.resolve ⟨dotted 2046⟩ = .ok ["r"] := resolve_dotted (by decide)
  have hnone : moduleNames single ⟨dotted 2046⟩ ["r"] = [] := by
    rw [List.eq_nil_iff_forall_not_mem]
    intro name hname
    obtain ⟨hfile, hfits⟩ := (mem_moduleNames_iff wellFormed_single hdir rfl).1 hname
    rw [isModuleFile_single_iff.1 hfile] at hfits
    exact not_fits_dotted (by decide) hfits
  have hempty : resolveDirectory single ⟨dotted 2046⟩ = .ok [] := by
    rw [resolveDirectory_eq wellFormed_single hdir rfl, hnone]
    rfl
  refine ⟨wellFormed_single, hdir, hmodule, hempty, ?_⟩
  -- No rules are one for each of no names, but one name would have to be there.
  rintro ⟨names, horder, hall⟩
  have hnames := List.forall₂_nil_right_iff.1 (horder.one_each [] hempty)
  have hmem := (hall "a.json").2 hmodule
  rw [hnames] at hmem
  cases hmem

end Resolver

end ProseLinter
