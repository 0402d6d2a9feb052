import Mathlib.Data.List.Find
import ProseLinter.Config.Basic
import ProseLinter.Proofs.Files.Location

/-!
# The nearest configuration file

A configuration file is looked for in a directory and then in those above it, up to the root. In
each of them the names of configuration files are tried in their order, so a file in a nearer
directory counts before any file further up, and only in one directory the order of the names
decides. A file is passed over, without an error, when its absolute path is longer than a path may
be.

* `Config.Holds` : a directory holds a file of a name.
* `Config.IsNearest` : the file that counts for a location, of those that are held.
* `Config.nearest?_eq_some_iff` : the search along the directories finds it.
* `Config.discover_nearest` : what is found from a directory, and when it is the nearest of the files
  that the directories hold.
* `Config.deep_directory_leaves_out_file` : a directory from which it is not found.
-/

namespace ProseLinter

/-- The first value on the way from a location to the root is that of the location next to it that
has one. -/
theorem findSome?_inits_eq_some_iff {α : Type} {g : Location → Option α} {loc : Location} {a : α} :
    loc.inits.reverse.findSome? g = some a ↔
      ∃ above, above <+: loc ∧ g above = some a ∧
        ∀ nearer, above <+: nearer → nearer <+: loc → nearer ≠ above → g nearer = none := by
  -- By induction on the location from its end: its own value comes before those further up.
  induction loc using List.reverseRecOn with
  | nil =>
    constructor
    · intro h
      refine ⟨[], List.prefix_rfl, by simpa using h, fun nearer _ hnearer hne => ?_⟩
      exact absurd (List.prefix_nil.1 hnearer) hne
    · rintro ⟨above, habove, ha, -⟩
      rw [List.prefix_nil.1 habove] at ha
      simpa using ha
  | append_singleton loc name ih =>
    rw [Path.inits_concat_reverse, List.findSome?_cons]
    cases hown : g (loc ++ [name]) with
    | some own =>
      constructor
      · intro h
        refine ⟨loc ++ [name], List.prefix_rfl, hown.trans h, fun nearer hle hnearer hne => ?_⟩
        exact absurd (hnearer.eq_of_length_le hle.length_le) hne
      · rintro ⟨above, habove, ha, hnone⟩
        by_cases hsame : loc ++ [name] = above
        · rw [← hown, hsame, ha]
        · rw [hnone _ habove List.prefix_rfl hsame] at hown
          cases hown
    | none =>
      simp only
      rw [ih]
      constructor
      · rintro ⟨above, habove, ha, hnone⟩
        refine ⟨above, habove.trans (List.prefix_append _ _), ha, fun nearer hle hnearer hne => ?_⟩
        rcases List.prefix_concat_iff.1 hnearer with rfl | hnearer
        · exact hown
        · exact hnone nearer hle hnearer hne
      · rintro ⟨above, habove, ha, hnone⟩
        rcases List.prefix_concat_iff.1 habove with rfl | habove
        · rw [ha] at hown
          cases hown
        · exact ⟨above, habove, ha, fun nearer hle hnearer =>
            hnone nearer hle (hnearer.trans (List.prefix_append _ _))⟩

namespace Config

variable {files : FileTree} {dir start f : Path} {loc above : Location} {name : String}

/-- A directory holds a file of a name. -/
def Holds (files : FileTree) (above : Location) (name : String) : Prop :=
  ∃ content, files.entry? (above ++ [name]) = some (.file content)

instance : Decidable (Holds files above name) :=
  decidable_of_iff _ FileTree.hasFile_iff

/-- The absolute path of a name in a directory is not too long. -/
def Fits (above : Location) (name : String) : Prop :=
  (Path.ofLocation (above ++ [name])).text.utf8ByteSize < FileTree.pathLimit

instance : Decidable (Fits above name) :=
  inferInstanceAs (Decidable (_ < _))

/-- A directory holds a file of a name, and its absolute path is not too long. -/
def HoldsFitting (files : FileTree) (above : Location) (name : String) : Prop :=
  Holds files above name ∧ Fits above name

instance : Decidable (HoldsFitting files above name) :=
  inferInstanceAs (Decidable (_ ∧ _))

/-! ### The nearest file -/

section Nearest

variable (held : Location → String → Prop)

/-- In a directory no configuration file is held. -/
def HoldsNone (above : Location) : Prop :=
  ∀ name ∈ fileNames, ¬ held above name

/-- In a directory a file with a name of configuration files is held, and none with an earlier
one. -/
structure HoldsFirst (above : Location) (name : String) : Prop where
  holds : held above name
  earliest : ∃ before after, fileNames = before ++ name :: after ∧
    ∀ other ∈ before, ¬ held above other

/-- The configuration file nearest to a location: there is none between its directory and the
location. -/
structure IsNearest (loc above : Location) (name : String) : Prop
    extends HoldsFirst held above name where
  isPrefix : above <+: loc
  nearest : ∀ nearer, above <+: nearer → nearer <+: loc → nearer ≠ above → HoldsNone held nearer

variable [∀ above name, Decidable (held above name)]

/-- The directory and the name of the nearest configuration file. -/
def nearest? (loc : Location) : Option (Location × String) :=
  loc.inits.reverse.findSome? fun above =>
    (fileNames.find? fun name => held above name).map (above, ·)

variable {held}

theorem find?_eq_some_iff :
    (fileNames.find? fun name => held above name) = some name ↔ HoldsFirst held above name := by
  rw [List.find?_eq_some_iff_append]
  constructor
  · rintro ⟨hheld, before, after, hnames, hbefore⟩
    exact ⟨by simpa using hheld, before, after, hnames, by simpa using hbefore⟩
  · rintro ⟨hheld, before, after, hnames, hbefore⟩
    exact ⟨by simpa using hheld, before, after, hnames, by simpa using hbefore⟩

theorem find?_eq_none_iff :
    (fileNames.find? fun name => held above name) = none ↔ HoldsNone held above := by
  simp [List.find?_eq_none, HoldsNone]

/-- The search finds the nearest file. -/
theorem nearest?_eq_some_iff :
    nearest? held loc = some (above, name) ↔ IsNearest held loc above name := by
  simp only [nearest?, findSome?_inits_eq_some_iff, Option.map_eq_some_iff, Option.map_eq_none_iff,
    Prod.mk.injEq, find?_eq_some_iff, find?_eq_none_iff]
  constructor
  · rintro ⟨above, habove, ⟨name, hfirst, rfl, rfl⟩, hnone⟩
    exact ⟨hfirst, habove, hnone⟩
  · rintro ⟨hfirst, habove, hnone⟩
    exact ⟨above, habove, ⟨name, hfirst, rfl, rfl⟩, hnone⟩

/-- It finds none exactly if no directory up to the root has one. -/
theorem nearest?_eq_none_iff :
    nearest? held loc = none ↔ ∀ above, above <+: loc → HoldsNone held above := by
  simp only [nearest?, List.findSome?_eq_none_iff, List.mem_reverse, List.mem_inits,
    Option.map_eq_none_iff, find?_eq_none_iff]

/-- The absolute path of the nearest file. -/
theorem map_nearest?_eq_some_iff :
    (nearest? held loc).map (fun place => Path.ofLocation (place.1 ++ [place.2])) = some f ↔
      ∃ above name, IsNearest held loc above name ∧ f = Path.ofLocation (above ++ [name]) := by
  rw [Option.map_eq_some_iff]
  constructor
  · rintro ⟨⟨above, name⟩, hnearest, rfl⟩
    exact ⟨above, name, nearest?_eq_some_iff.1 hnearest, rfl⟩
  · rintro ⟨above, name, hnearest, rfl⟩
    exact ⟨(above, name), nearest?_eq_some_iff.2 hnearest, rfl⟩

end Nearest

theorem HoldsNone.fitting (h : HoldsNone (Holds files) above) :
    HoldsNone (HoldsFitting files) above :=
  fun name hname hfitting => h name hname hfitting.1

/-- The nearest of all files is also the nearest of those whose path is not too long, if its own is
not. -/
theorem IsNearest.fitting (h : IsNearest (Holds files) loc above name) (hfits : Fits above name) :
    IsNearest (HoldsFitting files) loc above name := by
  obtain ⟨⟨hholds, before, after, hnames, hbefore⟩, hprefix, hnearer⟩ := h
  refine ⟨⟨⟨hholds, hfits⟩, before, after, hnames, ?_⟩, hprefix, ?_⟩
  · exact fun other hother hfitting => hbefore other hother hfitting.1
  · exact fun nearer hle hnearer' hne => (hnearer nearer hle hnearer' hne).fitting

/-- Where the path of the nearest file is not too long, it is found whether or not those with paths
that are too long are passed over. -/
theorem nearest?_fitting (h : ∀ above name, IsNearest (Holds files) loc above name → Fits above name) :
    nearest? (HoldsFitting files) loc = nearest? (Holds files) loc := by
  cases hnearest : nearest? (Holds files) loc with
  | none =>
    rw [nearest?_eq_none_iff] at hnearest ⊢
    exact fun above habove => (hnearest above habove).fitting
  | some place =>
    obtain ⟨above, name⟩ := place
    rw [nearest?_eq_some_iff] at hnearest ⊢
    exact hnearest.fitting (h above name hnearest)

/-! ### What is found -/

theorem isName_of_mem_fileNames (h : name ∈ fileNames) : Path.IsName name := by
  have hall : ∀ name ∈ fileNames, '/' ∉ name.toList ∧ name ≠ "" ∧ name ≠ "." ∧ name ≠ ".." := by
    decide
  exact Path.isName_iff.2 (hall name h)

/-- In a directory the first file counts of those whose path is not too long. -/
theorem fileIn?_ofLocation (h : files.WellFormed) (hnames : Path.AllNames above) :
    (fileNames.map fun name => (Path.ofLocation above).join ⟨name⟩).find? files.isFile =
      (fileNames.find? fun name => HoldsFitting files above name).map
        fun name => Path.ofLocation (above ++ [name]) := by
  have hjoin : fileNames.map (fun name => (Path.ofLocation above).join ⟨name⟩) =
      fileNames.map fun name => Path.ofLocation (above ++ [name]) :=
    List.map_congr_left fun name hname =>
      Path.join_ofLocation hnames (isName_of_mem_fileNames hname)
  rw [hjoin, List.find?_map]
  congr 1
  refine List.find?_congr fun name hname => ?_
  have hisFile := FileTree.isFile_ofLocation_iff h (hnames.concat (isName_of_mem_fileNames hname))
  rw [Function.comp_apply, Bool.eq_iff_iff, hisFile, decide_eq_true_iff]
  exact and_comm

/-- What is found from a directory is the nearest of the files whose path is not too long. -/
theorem discover_eq (h : files.WellFormed) (hdir : files.resolve dir = .ok loc) :
    discover files dir = (nearest? (HoldsFitting files) loc).map
      fun place => Path.ofLocation (place.1 ++ [place.2]) := by
  -- The directory is there, so its names and those of the directories above may stand in a path.
  have hnames := FileTree.allNames_of_isSome h (FileTree.isSome_entry?_of_resolve hdir)
  have hstart : (files.canonical dir).toOption.getD dir = Path.ofLocation loc := by
    rw [FileTree.canonical, hdir]
    rfl
  have hown : loc.inits.reverse.map (fun above =>
        (fileNames.map fun name => (Path.ofLocation above).join ⟨name⟩).find? files.isFile) =
      loc.inits.reverse.map fun above =>
        (fileNames.find? fun name => HoldsFitting files above name).map
          fun name => Path.ofLocation (above ++ [name]) := by
    refine List.map_congr_left fun above habove => fileIn?_ofLocation h fun name hname => ?_
    rw [List.mem_reverse, List.mem_inits] at habove
    exact hnames name (habove.subset hname)
  have hfirst := congrArg (List.findSome? id) hown
  rw [List.findSome?_map, List.findSome?_map] at hfirst
  rw [discover, hstart, Path.ancestors_ofLocation hnames, List.findSome?_map, nearest?,
    List.map_findSome?]
  refine hfirst.trans ?_
  simp only [Function.comp_def, Option.map_map, id]

/-- The search from a directory finds the nearest configuration file: in the directory itself or in
the first one above it that holds one, and of the files there the one whose name comes first. It
finds none exactly if no directory up to the root holds one. -/
structure FindsNearest (files : FileTree) (dir : Path) (loc : Location) : Prop where
  eq_some_iff : ∀ f, discover files dir = some f ↔
    ∃ above name, IsNearest (Holds files) loc above name ∧ f = Path.ofLocation (above ++ [name])
  eq_none_iff : discover files dir = none ↔
    ∀ above, above <+: loc → HoldsNone (Holds files) above

/-- What is found from a directory is the nearest of the configuration files whose absolute path is
not too long. So it is the nearest configuration file, or none if there is none, exactly unless the
absolute path of the nearest one is too long. The directory is given by any path, and its location
by its canonical path, which has to be one that can be followed. -/
theorem discover_nearest (h : files.WellFormed) (hcanonical : files.canonical dir = .ok start)
    (hstart : files.resolve start = .ok loc) :
    (∀ f, discover files dir = some f ↔
      ∃ above name, IsNearest (HoldsFitting files) loc above name ∧
        f = Path.ofLocation (above ++ [name])) ∧
    (FindsNearest files dir loc ↔
      ∀ above name, IsNearest (Holds files) loc above name → Fits above name) := by
  -- The canonical path is that of the directory's location, and it leads to nothing else.
  obtain ⟨loc', hdir, rfl⟩ : ∃ loc', files.resolve dir = .ok loc' ∧ Path.ofLocation loc' = start := by
    rw [FileTree.canonical] at hcanonical
    exact exists_of_map_eq_ok hcanonical
  obtain rfl := FileTree.eq_of_resolve_ofLocation
    (FileTree.allNames_of_isSome h (FileTree.isSome_entry?_of_resolve hdir)) hstart
  have hfound (f : Path) : discover files dir = some f ↔
      ∃ above name, IsNearest (HoldsFitting files) loc above name ∧
        f = Path.ofLocation (above ++ [name]) := by
    rw [discover_eq h hdir, map_nearest?_eq_some_iff]
  refine ⟨hfound, ?_, ?_⟩
  · -- The path that is found is one that fits.
    intro hnearest above name hheld
    obtain ⟨above', name', hfitting, hpath⟩ :=
      (hfound _).1 ((hnearest.eq_some_iff _).2 ⟨above, name, hheld, rfl⟩)
    rw [Fits, hpath]
    exact hfitting.holds.2
  · intro hfits
    have hsearch := discover_eq h hdir
    rw [nearest?_fitting hfits] at hsearch
    constructor
    · intro f
      rw [hsearch, map_nearest?_eq_some_iff]
    · rw [hsearch, Option.map_eq_none_iff, nearest?_eq_none_iff]

/-! ### A directory in which a name is that of a directory -/

/-- A directory in which a directory is called like a configuration file. Above it there are two
configuration files, and one more at the root. -/
def nested : FileTree :=
  ⟨[([".kotolintrc.json"], .file "\x7b\x7d".toUTF8), (["a"], .directory),
    (["a", ".kotolintrc"], .file "\x7b\x7d".toUTF8),
    (["a", ".kotolintrc.jsonc"], .file "\x7b\x7d".toUTF8), (["a", "b"], .directory),
    (["a", "b", ".kotolintrc.json"], .directory)], ["a"]⟩

theorem nearest?_nested : nearest? (Holds nested) ["a", "b"] = some (["a"], ".kotolintrc.jsonc") := by
  decide +kernel

/-- From the directory the first file of the one above is found, and from an empty tree none. -/
theorem discover_nested :
    discover nested ⟨"b"⟩ = some ⟨"/a/.kotolintrc.jsonc"⟩ ∧ discover ⟨[], []⟩ ⟨"."⟩ = none := by
  have hwell : nested.WellFormed := by decide +kernel
  have hcanonical : nested.canonical ⟨"b"⟩ = .ok ⟨"/a/b"⟩ := by decide +kernel
  have hstart : nested.resolve ⟨"/a/b"⟩ = .ok ["a", "b"] := by decide +kernel
  have hfits : ∀ above name, IsNearest (Holds nested) ["a", "b"] above name → Fits above name := by
    intro above name hnearest
    rw [← nearest?_eq_some_iff, nearest?_nested, Option.some.injEq, Prod.mk.injEq] at hnearest
    obtain ⟨rfl, rfl⟩ := hnearest
    decide +kernel
  have hempty : FileTree.WellFormed ⟨[], []⟩ := by decide
  have hroot : FileTree.canonical ⟨[], []⟩ ⟨"."⟩ = .ok ⟨"/"⟩ := by decide +kernel
  have hslash : FileTree.resolve ⟨[], []⟩ ⟨"/"⟩ = .ok [] := by decide +kernel
  have hnone : nearest? (Holds ⟨[], []⟩) [] = none := by decide +kernel
  constructor
  · have hfinds := (discover_nearest hwell hcanonical hstart).2.2 hfits
    refine (hfinds.eq_some_iff _).2 ⟨_, _, nearest?_eq_some_iff.1 nearest?_nested, ?_⟩
    decide +kernel
  · have hfinds := (discover_nearest hempty hroot hslash).2.2 fun above name hnearest => by
      rw [← nearest?_eq_some_iff, hnone] at hnearest
      cases hnearest
    exact hfinds.eq_none_iff.2 (nearest?_eq_none_iff.1 hnone)

/-! ### A directory with a long path -/

/-- The location of so many directories of one name, each in the one before. -/
def chain (name : String) (depth : Nat) : Location :=
  List.replicate depth name

/-- A tree of such directories, the last of which holds a configuration file. -/
def chainTree (name : String) (depth : Nat) : FileTree :=
  ⟨(List.range depth).map (fun n => (chain name (n + 1), Entry.directory)) ++
    [(chain name depth ++ [".kotolintrc.json"], .file "\x7b\x7d".toUTF8)], []⟩

section Chain

variable {depth n : Nat}

theorem nodup_chainTree (name : String) (depth : Nat) :
    ((chainTree name depth).entries.map Prod.fst).Nodup := by
  -- The locations have different lengths.
  apply List.Nodup.of_map List.length
  have hlengths : ((chainTree name depth).entries.map Prod.fst).map List.length =
      (List.range (depth + 1)).map (· + 1) := by
    simp [chainTree, chain, List.range_succ, Function.comp_def]
  rw [hlengths]
  exact List.nodup_range.map fun _ _ h => Nat.succ.inj h

theorem entry?_chain (hn : n ≤ depth) :
    FileTree.entry? (chainTree name depth) (chain name n) = some .directory := by
  cases n with
  | zero => rfl
  | succ n =>
    have hne : chain name (n + 1) ≠ [] := List.cons_ne_nil _ _
    rw [FileTree.entry?_of_ne_nil hne, lookup_eq_some_iff_mem (nodup_chainTree name depth)]
    apply List.mem_append_left
    exact List.mem_map.2 ⟨n, List.mem_range.2 hn, rfl⟩

theorem wellFormed_chainTree (hname : FileTree.IsEntryName name) (depth : Nat) :
    (chainTree name depth).WellFormed := by
  have hchain (n : Nat) : ∀ part ∈ chain name n, FileTree.IsEntryName part := fun part hpart =>
    List.eq_of_mem_replicate hpart ▸ hname
  refine ⟨nodup_chainTree name depth, ?_, ?_⟩
  · intro entry hentry
    rcases List.mem_append.1 hentry with hentry | hentry
    · obtain ⟨n, -, rfl⟩ := List.mem_map.1 hentry
      exact hchain (n + 1)
    · rw [List.mem_singleton.1 hentry]
      exact List.forall_mem_append.2 ⟨hchain depth, List.forall_mem_singleton.2 (by decide)⟩
  · intro entry hentry
    rcases List.mem_append.1 hentry with hentry | hentry
    · obtain ⟨n, hn, rfl⟩ := List.mem_map.1 hentry
      have hparent : (chain name (n + 1)).dropLast = chain name n := by
        simp [chain]
      rw [hparent]
      exact entry?_chain (Nat.le_of_lt (List.mem_range.1 hn))
    · rw [List.mem_singleton.1 hentry, List.dropLast_concat]
      exact entry?_chain (Nat.le_refl depth)

/-- The last of the directories holds its file, and this is all that is held. -/
theorem holds_chainTree_iff {other : String} :
    Holds (chainTree name depth) above other ↔
      above = chain name depth ∧ other = ".kotolintrc.json" := by
  have hne : above ++ [other] ≠ [] := List.append_ne_nil_of_right_ne_nil _ (List.cons_ne_nil _ _)
  simp only [Holds, FileTree.entry?_of_ne_nil hne,
    lookup_eq_some_iff_mem (nodup_chainTree name depth)]
  constructor
  · rintro ⟨content, hmem⟩
    rcases List.mem_append.1 hmem with hmem | hmem
    · obtain ⟨n, -, hentry⟩ := List.mem_map.1 hmem
      cases congrArg Prod.snd hentry
    · exact List.append_singleton_inj.1 (congrArg Prod.fst (List.mem_singleton.1 hmem))
  · rintro ⟨rfl, rfl⟩
    exact ⟨_, List.mem_append_right _ (List.mem_singleton_self _)⟩

/-- Each of the directories makes the path of what is in them longer by its name and a slash. -/
theorem utf8ByteSize_chain_append (name : String) (depth : Nat) (hne : loc ≠ []) :
    (Path.ofLocation (chain name depth ++ loc)).text.utf8ByteSize =
      depth * (name.utf8ByteSize + 1) + (Path.ofLocation loc).text.utf8ByteSize := by
  induction depth with
  | zero => rw [chain, List.replicate_zero, List.nil_append, Nat.zero_mul, Nat.zero_add]
  | succ depth ih =>
    have hrest : chain name depth ++ loc ≠ [] := List.append_ne_nil_of_right_ne_nil _ hne
    rw [chain, List.replicate_succ, List.cons_append]
    rw [chain] at ih hrest
    rw [Path.utf8ByteSize_ofLocation_cons name hrest, ih, Nat.succ_mul]
    omega

end Chain

/-- A name of almost as many bytes as a name may have. -/
def longName : String :=
  String.ofList (List.replicate 254 'd')

theorem utf8ByteSize_longName : longName.utf8ByteSize = 254 := by
  decide +kernel

theorem isEntryName_longName : FileTree.IsEntryName longName := by
  have hchar (size : Nat) (c : Char) (hc : c ≠ 'd') :
      c ∉ (String.ofList (List.replicate size 'd')).toList := by
    rw [String.toList_ofList]
    exact fun hmem => hc (List.eq_of_mem_replicate hmem)
  have hother (text : String) (htext : text.utf8ByteSize ≠ 254) : longName ≠ text := by
    rintro rfl
    exact htext utf8ByteSize_longName
  refine ⟨Path.isName_iff.2 ⟨hchar 254 '/' (by decide), hother "" (by decide),
    hother "." (by decide), hother ".." (by decide)⟩, hchar 254 '\x00' (by decide), ?_⟩
  rw [utf8ByteSize_longName]
  decide

/-- In a directory whose path is just short enough, the configuration file is passed over, and so
none is found. -/
theorem deep_directory_leaves_out_file :
    (chainTree longName 16).WellFormed ∧
      (chainTree longName 16).canonical (Path.ofLocation (chain longName 16)) =
        .ok (Path.ofLocation (chain longName 16)) ∧
      (chainTree longName 16).resolve (Path.ofLocation (chain longName 16)) =
        .ok (chain longName 16) ∧
      Holds (chainTree longName 16) (chain longName 16) ".kotolintrc.json" ∧
      discover (chainTree longName 16) (Path.ofLocation (chain longName 16)) = none ∧
      ¬ FindsNearest (chainTree longName 16) (Path.ofLocation (chain longName 16))
        (chain longName 16) := by
  have hwell : (chainTree longName 16).WellFormed := wellFormed_chainTree isEntryName_longName 16
  have hresolve : (chainTree longName 16).resolve (Path.ofLocation (chain longName 16)) =
      .ok (chain longName 16) := by
    refine FileTree.resolve_ofLocation hwell ?_ (List.cons_ne_nil _ _) ?_
    · rw [entry?_chain (Nat.le_refl 16), Option.isSome_some]
    · change (Path.ofLocation (chain longName 15 ++ [longName])).text.utf8ByteSize < _
      rw [utf8ByteSize_chain_append longName 15 (List.cons_ne_nil _ _),
        Path.utf8ByteSize_ofLocation_singleton, utf8ByteSize_longName]
      decide
  have hholds : Holds (chainTree longName 16) (chain longName 16) ".kotolintrc.json" :=
    holds_chainTree_iff.2 ⟨rfl, rfl⟩
  -- The directory's path is just short enough, and the file's is not.
  have hlong : ¬ Fits (chain longName 16) ".kotolintrc.json" := by
    rw [Fits, utf8ByteSize_chain_append longName 16 (List.cons_ne_nil _ _),
      Path.utf8ByteSize_ofLocation_singleton, utf8ByteSize_longName]
    decide
  have hnone : discover (chainTree longName 16) (Path.ofLocation (chain longName 16)) = none := by
    rw [discover_eq hwell hresolve, Option.map_eq_none_iff, nearest?_eq_none_iff]
    rintro above - name - ⟨hheld, hfits⟩
    obtain ⟨rfl, rfl⟩ := holds_chainTree_iff.1 hheld
    exact hlong hfits
  refine ⟨hwell, ?_, hresolve, hholds, hnone, fun hnearest => ?_⟩
  · rw [FileTree.canonical, hresolve]
    rfl
  · exact hnearest.eq_none_iff.1 hnone _ List.prefix_rfl _ (by decide) hholds

end Config

end ProseLinter
