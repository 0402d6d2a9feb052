import ProseLinter.Proofs.Loading.Containment

/-!
# Modules asked for by path

A path leads to a module file, or to a directory with a manifest in it. When the file is there, the
path gives what stands in it or the complaint about that. Only a manifest without a name is reported
as missing although it is there: it has the name of its directory, and none if no name stands before
it in the path as written.

* `Modules.Reads` : what comes of a module file that is there.
* `Naming.designated` : the file that a path leads to.
* `Naming.IsNameless` : a manifest without a name; `Naming.moduleName?_eq_none_iff` says that no
  other file lacks one.
* `explicit_paths` : what comes of a path that leads to a file.
-/

namespace ProseLinter

/-! ### Module files -/

/-- An error that is about a file: the file cannot be read, or it is no module. -/
inductive RuleError.Concerns (p : Path) : RuleError → Prop
  | file (fault : FileFault) : Concerns p (.file p fault)
  | invalidModule (fault : ModuleFault) : Concerns p (.invalidModule p fault)

/-- A file that is there has a canonical path. -/
theorem FileTree.canonical_of_isFile {files : FileTree} {f : Path} (h : files.isFile f = true) :
    files.canonical f = .ok (Naming.canonicalOrSelf files f) := by
  rw [isFile, find?] at h
  rw [Naming.canonicalOrSelf, canonical]
  cases hloc : files.resolve f with
  | ok loc => rfl
  | error fault => simp [hloc] at h

namespace Modules

variable {files : FileTree} {f path : Path} {err : RuleError}

theorem concerns_of_readAs {α : Type} {decode : Json.Decoder α}
    (h : readAs files path decode = .error err) : err.Concerns path := by
  rcases eq_error_or_of_bind_eq_error h with h | ⟨v, -, h⟩
  · rcases eq_error_or_of_bind_eq_error h with h | ⟨text, -, h⟩
    · obtain ⟨fault, -, rfl⟩ := exists_of_mapError_eq_error h
      exact .file fault
    · split at h
      · cases h
      · cases h
        exact .invalidModule _
      · cases h
        exact .invalidModule _
  · obtain ⟨fault, -, rfl⟩ := exists_of_mapError_eq_error h
    exact .invalidModule _

/-- What keeps a rule from being read is something about its file. -/
theorem concerns_of_loadRule (h : loadRule files path = .error err) : err.Concerns path := by
  rcases eq_error_or_of_bind_eq_error h with h | ⟨m, -, h⟩
  · exact concerns_of_readAs h
  · obtain ⟨fault, -, rfl⟩ := exists_of_mapError_eq_error h
    exact .invalidModule _

theorem concerns_of_loadPluginRule {name : String} {rule : PluginRule}
    (h : loadPluginRule files path name rule = .error err) :
    ∃ p, (p = path ∨ p.Inside (pluginDirectory path)) ∧ err.Concerns p := by
  cases hname : isRuleName name with
  | false =>
    simp only [loadPluginRule, hname] at h
    cases h
    exact ⟨path, .inl rfl, .invalidModule _⟩
  | true =>
    simp only [loadPluginRule, hname, Bool.not_true, Bool.false_eq_true, if_false] at h
    cases rule with
    | inline m =>
      obtain ⟨fault, -, rfl⟩ := exists_of_mapError_eq_error h
      exact ⟨path, .inl rfl, .invalidModule _⟩
    | file text =>
      cases hstays : staysInside ⟨text⟩ with
      | false =>
        simp only [hstays] at h
        cases h
        exact ⟨path, .inl rfl, .invalidModule _⟩
      | true =>
        simp only [hstays] at h
        exact ⟨_, .inr (inside_of_staysInside hstays _), concerns_of_loadRule h⟩

/-- What keeps a plugin from being read is something about its manifest or about a file of its
directory. -/
theorem concerns_of_loadPlugin (h : loadPlugin files path = .error err) :
    ∃ p, (p = path ∨ p.Inside (pluginDirectory path)) ∧ err.Concerns p := by
  rcases eq_error_or_of_bind_eq_error h with h | ⟨m, -, h⟩
  · exact ⟨path, .inl rfl, concerns_of_readAs h⟩
  · split at h
    · cases h
      exact ⟨path, .inl rfl, .invalidModule _⟩
    · rcases eq_error_or_of_bind_eq_error h with h | ⟨rules, -, h⟩
      · obtain ⟨⟨name, rule⟩, -, h⟩ := exists_eq_error_of_mapM h
        exact concerns_of_loadPluginRule (eq_error_of_map h)
      · cases h

/-- What comes of a file that is there and is read as a module: what is made of it, which comes from
the canonical path of the file, or the complaint about it. -/
inductive Reads {α β : Type} (files : FileTree) (f : Path) (read : Path → Except RuleError α)
    (make : Path → α → β) : Except LintError β → Prop
  | loaded {file : Path} {a : α} (hfile : files.canonical f = .ok file)
      (hread : read file = .ok a) : Reads files f read make (.ok (make file a))
  | broken {file : Path} {err : RuleError} (hfile : files.canonical f = .ok file)
      (hread : read file = .error err) : Reads files f read make (.error (.invalidModule err))

theorem reads_of_isFile {α β : Type} {read : Path → Except RuleError α} {make : Path → α → β}
    {outcome : Except LintError β} (hfile : files.isFile f = true)
    (h : outcome = do
      let a ← (read (Naming.canonicalOrSelf files f)).mapError .invalidModule
      return make (Naming.canonicalOrSelf files f) a) :
    Reads files f read make outcome := by
  have hcanonical := FileTree.canonical_of_isFile hfile
  subst h
  cases hread : read (Naming.canonicalOrSelf files f) with
  | ok a => exact .loaded hcanonical hread
  | error err => exact .broken hcanonical hread

/-- A file that is there gives no error but complaints about it. -/
theorem Reads.ne_error {α β : Type} {read : Path → Except RuleError α} {make : Path → α → β}
    {outcome : Except LintError β} (h : Reads files f read make outcome) (err : LintError)
    (herr : ∀ fault, err ≠ .invalidModule fault) : outcome ≠ .error err := by
  cases h with
  | loaded hfile hread => exact fun h => by cases h
  | broken hfile hread => exact fun h => herr _ (Except.error.inj h).symm

end Modules

/-! ### Names of files -/

theorem Path.fileName?_eq_some_iff {p : Path} {name : String} :
    p.fileName? = some name ↔ ∃ above, p.components = above ++ [.normal name] := by
  refine ⟨fun h => ?_, fun ⟨above, h⟩ => fileName?_of_components h⟩
  rw [fileName?] at h
  split at h
  · next last hlast =>
    obtain rfl := Option.some.inj h
    exact List.getLast?_eq_some_iff.1 hlast
  · cases h

theorem Path.fileName?_eq_none_iff {p : Path} :
    p.fileName? = none ↔ ∀ name, p.components.getLast? ≠ some (.normal name) := by
  rw [fileName?]
  split
  · next name hlast => simp [hlast]
  · next hother => exact iff_of_true rfl fun name h => hother name h

namespace Naming

variable {files : FileTree} {base? : Option Path} {manifest : String} {p f : Path}

/-- The module file that a path designates once the base directory was tried. -/
def designated (files : FileTree) (base? : Option Path) (manifest : String) (p : Path) : Path :=
  moduleFile files manifest (fromBase files base? p)

/-- The path of a manifest in which no name stands right before that of the manifest, but the root,
dots or nothing. -/
def IsNameless (manifest : String) (f : Path) : Prop :=
  ∃ above, f.components = above ++ [.normal manifest] ∧
    ∀ name, above.getLast? ≠ some (.normal name)

theorem isNameless_iff {above : List Component} {name : String}
    (h : f.components = above ++ [.normal name]) :
    IsNameless manifest f ↔
      name = manifest ∧ ∀ directory, above.getLast? ≠ some (.normal directory) := by
  constructor
  · rintro ⟨above', habove', hlast⟩
    obtain ⟨rfl, hname⟩ := List.append_singleton_inj.1 (h.symm.trans habove')
    exact ⟨Component.normal.inj hname, hlast⟩
  · rintro ⟨rfl, hlast⟩
    exact ⟨above, h, hlast⟩

/-- The files without a name are the nameless manifests. -/
theorem moduleName?_eq_none_iff (hfile : f.fileName? ≠ none) :
    moduleName? f manifest = none ↔ IsNameless manifest f := by
  obtain ⟨name, hname⟩ := Option.ne_none_iff_exists'.1 hfile
  obtain ⟨above, habove⟩ := Path.fileName?_eq_some_iff.1 hname
  rw [isNameless_iff habove, moduleName?, hname, Option.bind_eq_bind, Option.bind_some]
  by_cases hmanifest : name = manifest
  · -- A manifest is named for what stands above it.
    obtain ⟨q, hparent, hcomponents⟩ := Path.exists_parent? habove
    rw [if_pos (beq_iff_eq.2 hmanifest), hparent, Option.bind_eq_bind, Option.bind_some,
      Path.fileName?_eq_none_iff, hcomponents]
    exact (and_iff_right hmanifest).symm
  · rw [if_neg (by simpa using hmanifest), Path.stem?, hname]
    exact iff_of_false (by simp) (fun h => hmanifest h.1)

end Naming

/-! ### Rules -/

namespace Resolver

variable {r : Resolver} {files : FileTree} {base? : Option Path} {dir p q f : Path}
  {paths : List Path}

/-- What comes of a module file with a rule: the rule under a name. -/
def Reads (files : FileTree) (f : Path) (name : String) :
    Except LintError ResolvedRule → Prop :=
  Modules.Reads files f (Modules.loadRule files) fun file rule => ⟨name, rule.toRule, .file file⟩

/-- The path of a rule whose file is there gives the rule, or the complaint about the file. Only a
nameless manifest is reported as missing. -/
theorem resolvePath_cases (hf : Naming.moduleFile files manifest q = f)
    (hfile : files.isFile f = true) (hname : f.fileName? ≠ none) :
    Naming.IsNameless manifest f ∧ resolvePath files q = .error (.ruleNotFound q.text [f]) ∨
      ¬ Naming.IsNameless manifest f ∧ ∃ stem, Naming.moduleName? f manifest = some stem ∧
        Reads files f (Naming.normalizeRule stem) (resolvePath files q) := by
  rw [← Naming.moduleName?_eq_none_iff hname, resolvePath_of_moduleFile hf hfile]
  cases hstem : Naming.moduleName? f manifest with
  | none => exact .inl ⟨rfl, rfl⟩
  | some stem => exact .inr ⟨Option.some_ne_none stem, stem, rfl, Modules.reads_of_isFile hfile rfl⟩

theorem isFile_of_mem_moduleFiles (h : moduleFiles files dir = .ok paths) (hf : f ∈ paths) :
    files.isFile f = true ∧ f.fileName? ≠ none := by
  rw [moduleFiles] at h
  obtain ⟨all, -, h⟩ := exists_of_bind_eq_ok h
  cases h
  rw [List.mem_mergeSort, List.mem_filter, Bool.and_eq_true] at hf
  refine ⟨hf.2.2, fun hname => ?_⟩
  -- Without a name there is no extension.
  have hextension := hf.2.1
  rw [Naming.hasModuleExtension, Path.extension?, hname] at hextension
  cases hextension

/-- The rules of a directory of which each module can be read are found, unless one of its modules
is a nameless manifest. -/
theorem resolveDirectory_cases (h : moduleFiles files dir = .ok paths)
    (hread : ∀ f ∈ paths, ∀ file, files.canonical f = .ok file →
      ∃ rule, Modules.loadRule files file = .ok rule) :
    ((∃ all, resolveDirectory files dir = .ok all) ↔
      ∀ f ∈ paths, ¬ Naming.IsNameless manifest f) ∧
    ∀ err, resolveDirectory files dir = .error err →
      ∃ f ∈ paths, Naming.IsNameless manifest f ∧ err = .ruleNotFound f.text [f] := by
  have hpath : ∀ f ∈ paths,
      Naming.IsNameless manifest f ∧ resolvePath files f = .error (.ruleNotFound f.text [f]) ∨
        ¬ Naming.IsNameless manifest f ∧ ∃ found, resolvePath files f = .ok found := by
    intro f hf
    obtain ⟨hfile, hname⟩ := isFile_of_mem_moduleFiles h hf
    refine (resolvePath_cases (Naming.moduleFile_of_isFile hfile) hfile hname).imp_right ?_
    rintro ⟨hnameless, stem, -, hreads⟩
    refine ⟨hnameless, ?_⟩
    generalize resolvePath files f = outcome at hreads
    cases hreads with
    | loaded hcanonical hrule => exact ⟨_, rfl⟩
    | broken hcanonical hrule =>
      obtain ⟨rule, hok⟩ := hread f hf _ hcanonical
      rw [hrule] at hok
      cases hok
  have hdirectory : resolveDirectory files dir = paths.mapM (resolvePath files) := by
    rw [resolveDirectory, h]
    rfl
  rw [hdirectory]
  have herror : ∀ err, paths.mapM (resolvePath files) = .error err →
      ∃ f ∈ paths, Naming.IsNameless manifest f ∧ err = .ruleNotFound f.text [f] := by
    intro err herr
    obtain ⟨f, hf, hferr⟩ := exists_eq_error_of_mapM herr
    rcases hpath f hf with ⟨hnameless, hmissing⟩ | ⟨-, found, hfound⟩
    · rw [hmissing] at hferr
      exact ⟨f, hf, hnameless, (Except.error.inj hferr).symm⟩
    · rw [hfound] at hferr
      cases hferr
  refine ⟨⟨?_, ?_⟩, herror⟩
  · rintro ⟨all, hall⟩ f hf hnameless
    obtain ⟨found, hfound⟩ := exists_eq_ok_of_mapM hall f hf
    rcases hpath f hf with ⟨-, hmissing⟩ | ⟨hnamed, -⟩
    · rw [hmissing] at hfound
      cases hfound
    · exact hnamed hnameless
  · intro hnamed
    cases hall : paths.mapM (resolvePath files) with
    | ok all => exact ⟨all, rfl⟩
    | error err =>
      obtain ⟨f, hf, hnameless, -⟩ := herror err hall
      exact absurd hnameless (hnamed f hf)

end Resolver

/-! ### Plugins -/

namespace Plugins

variable {files : FileTree} {base? : Option Path} {text : String} {f : Path}

/-- What comes of a module file with a plugin: the plugin under a name. -/
def Reads (files : FileTree) (f : Path) (name : String) : Except LintError PluginBundle → Prop :=
  Modules.Reads files f (Modules.loadPlugin files) fun file plugin =>
    ⟨name, file, plugin.rules.map fun (localName, rule) => (localName, rule.toRule)⟩

/-- The path of a plugin whose file is there gives the plugin, or the complaint about its files.
Only a nameless manifest is reported as missing. -/
theorem resolve_cases (home? : Option Path) (htext : Naming.looksLikePath text = true)
    (hf : Naming.designated files base? manifest ⟨text⟩ = f) (hfile : files.isFile f = true)
    (hname : f.fileName? ≠ none) :
    Naming.IsNameless manifest f ∧
        resolve files home? base? text = .error (.pluginNotFound text [f]) ∨
      ¬ Naming.IsNameless manifest f ∧ ∃ stem, Naming.moduleName? f manifest = some stem ∧
        Reads files f (Naming.normalizePlugin stem) (resolve files home? base? text) := by
  rw [← Naming.moduleName?_eq_none_iff hname, resolve_eq_bind, locate, if_pos htext,
    locatePath_of_moduleFile hf hfile]
  cases hstem : Naming.moduleName? f manifest with
  | none => exact .inl ⟨rfl, rfl⟩
  | some stem => exact .inr ⟨Option.some_ne_none stem, stem, rfl, Modules.reads_of_isFile hfile rfl⟩

end Plugins

/-! ### Explicit paths -/

/-- A path that leads to a module file, by itself or as the directory of a manifest, gives what is
in the file or the complaint about it, unless the file is a manifest without a name: this alone is
reported as missing although it is there. So it is with rules and with plugins, and the rules of a
directory in which each module can be read are found unless it holds such a manifest. -/
theorem explicit_paths (files : FileTree) :
    (∀ (r : Resolver) (base? : Option Path) (p f : Path),
      Naming.designated files base? Resolver.manifest p = f → files.isFile f = true →
        f.fileName? ≠ none →
          (r.resolve files base? (.path p) =
              .error (.ruleNotFound (Naming.fromBase files base? p).text [f]) ↔
            Naming.IsNameless Resolver.manifest f) ∧
          (¬ Naming.IsNameless Resolver.manifest f →
            ∃ stem, Naming.moduleName? f Resolver.manifest = some stem ∧
              Resolver.Reads files f (Naming.normalizeRule stem)
                (r.resolve files base? (.path p)))) ∧
    (∀ (home? base? : Option Path) (text : String) (f : Path),
      Naming.looksLikePath text = true →
        Naming.designated files base? Plugins.manifest ⟨text⟩ = f → files.isFile f = true →
          f.fileName? ≠ none →
            (Plugins.resolve files home? base? text = .error (.pluginNotFound text [f]) ↔
              Naming.IsNameless Plugins.manifest f) ∧
            (¬ Naming.IsNameless Plugins.manifest f →
              ∃ stem, Naming.moduleName? f Plugins.manifest = some stem ∧
                Plugins.Reads files f (Naming.normalizePlugin stem)
                  (Plugins.resolve files home? base? text))) ∧
    (∀ (dir : Path) (paths : List Path), Resolver.moduleFiles files dir = .ok paths →
      (∀ f ∈ paths, ∀ file, files.canonical f = .ok file →
        ∃ rule, Modules.loadRule files file = .ok rule) →
        ((∃ all, Resolver.resolveDirectory files dir = .ok all) ↔
          ∀ f ∈ paths, ¬ Naming.IsNameless Resolver.manifest f) ∧
        ∀ err, Resolver.resolveDirectory files dir = .error err →
          ∃ f ∈ paths, Naming.IsNameless Resolver.manifest f ∧
            err = .ruleNotFound f.text [f]) ∧
    (∀ file err, Modules.loadRule files file = .error err → err.Concerns file) ∧
    ∀ file err, Modules.loadPlugin files file = .error err →
      ∃ p, (p = file ∨ p.Inside (Modules.pluginDirectory file)) ∧ err.Concerns p := by
  refine ⟨?_, ?_, ?_, ?_, ?_⟩
  · intro r base? p f hf hfile hname
    rcases Resolver.resolvePath_cases hf hfile hname with ⟨hnameless, hmissing⟩ | ⟨hnamed, hreads⟩
    · exact ⟨iff_of_true hmissing hnameless, fun hnamed => absurd hnameless hnamed⟩
    · obtain ⟨stem, hstem, hreads⟩ := hreads
      have hfound := hreads.ne_error (.ruleNotFound (Naming.fromBase files base? p).text [f])
        (fun _ h => by cases h)
      exact ⟨iff_of_false hfound hnamed, fun _ => ⟨stem, hstem, hreads⟩⟩
  · intro home? base? text f htext hf hfile hname
    rcases Plugins.resolve_cases home? htext hf hfile hname with
      ⟨hnameless, hmissing⟩ | ⟨hnamed, hreads⟩
    · exact ⟨iff_of_true hmissing hnameless, fun hnamed => absurd hnameless hnamed⟩
    · obtain ⟨stem, hstem, hreads⟩ := hreads
      have hfound := hreads.ne_error (.pluginNotFound text [f])
        (fun _ h => by cases h)
      exact ⟨iff_of_false hfound hnamed, fun _ => ⟨stem, hstem, hreads⟩⟩
  · exact fun dir paths h hread => Resolver.resolveDirectory_cases h hread
  · exact fun file err h => Modules.concerns_of_loadRule h
  · exact fun file err h => Modules.concerns_of_loadPlugin h

/-- A working directory with the manifest of a rule, and below it one with the manifest of a
plugin; another plugin has its manifest at the root. -/
def namelessTree : FileTree :=
  ⟨[(["d"], .directory), (["d", "rule.json"], .file "\x7b\"patterns\":[\"x\"]\x7d".toUTF8),
    (["d", "x"], .directory),
    (["d", "x", "plugin.json"],
      .file "\x7b\"rules\":\x7b\"r\":\x7b\"patterns\":[\"x\"]\x7d\x7d\x7d".toUTF8),
    (["plugin.json"],
      .file "\x7b\"rules\":\x7b\"r\":\x7b\"patterns\":[\"x\"]\x7d\x7d\x7d".toUTF8)], ["d"]⟩

theorem loadRule_namelessTree :
    ∃ rule, Modules.loadRule namelessTree ⟨"/d/rule.json"⟩ = .ok rule := by
  have hok : (Modules.loadRule namelessTree ⟨"/d/rule.json"⟩).toOption.isSome = true := by
    decide +kernel
  obtain ⟨rule, hrule⟩ := Option.isSome_iff_exists.1 hok
  exact ⟨rule, eq_ok_of_toOption hrule⟩

/-- Where a name stands before that of the manifest, the rule and the plugin are found by path. -/
theorem explicit_paths_namelessTree :
    Resolver.Reads namelessTree ⟨"/d/rule.json"⟩ "d"
      ((⟨.bundled, none⟩ : Resolver).resolve namelessTree none (.path ⟨"/d"⟩)) ∧
    Plugins.Reads namelessTree ⟨"x/plugin.json"⟩ "x"
      (Plugins.resolve namelessTree none none "x/plugin.json") ∧
    ∃ all, Resolver.resolveDirectory namelessTree ⟨"/d"⟩ = .ok all := by
  have hrule : ¬ Naming.IsNameless Resolver.manifest ⟨"/d/rule.json"⟩ := by
    rw [← Naming.moduleName?_eq_none_iff (by decide +kernel)]
    decide +kernel
  have hplugin : ¬ Naming.IsNameless Plugins.manifest ⟨"x/plugin.json"⟩ := by
    rw [← Naming.moduleName?_eq_none_iff (by decide +kernel)]
    decide +kernel
  obtain ⟨hrules, hplugins, hdirectories, -, -⟩ := explicit_paths namelessTree
  refine ⟨?_, ?_, ?_⟩
  · obtain ⟨stem, hstem, hreads⟩ := (hrules ⟨.bundled, none⟩ none ⟨"/d"⟩ ⟨"/d/rule.json"⟩
      (by decide +kernel) (by decide +kernel) (by decide +kernel)).2 hrule
    have hname : (Naming.moduleName? ⟨"/d/rule.json"⟩ Resolver.manifest).map
        Naming.normalizeRule = some "d" := by decide +kernel
    rw [hstem] at hname
    rwa [Option.some.inj hname] at hreads
  · obtain ⟨stem, hstem, hreads⟩ := (hplugins none none "x/plugin.json" ⟨"x/plugin.json"⟩
      (by decide +kernel) (by decide +kernel) (by decide +kernel) (by decide +kernel)).2 hplugin
    have hname : (Naming.moduleName? ⟨"x/plugin.json"⟩ Plugins.manifest).map
        Naming.normalizePlugin = some "x" := by decide +kernel
    rw [hstem] at hname
    rwa [Option.some.inj hname] at hreads
  · have hpaths : (Resolver.moduleFiles namelessTree ⟨"/d"⟩).toOption =
        some [⟨"/d/rule.json"⟩] := by decide +kernel
    have hfile : (namelessTree.canonical ⟨"/d/rule.json"⟩).toOption = some ⟨"/d/rule.json"⟩ := by
      decide +kernel
    refine (hdirectories ⟨"/d"⟩ [⟨"/d/rule.json"⟩] (eq_ok_of_toOption hpaths) ?_).1.2 ?_
    · rw [List.forall_mem_singleton]
      intro file hcanonical
      obtain rfl := Except.ok.inj (hcanonical.symm.trans (eq_ok_of_toOption hfile))
      exact loadRule_namelessTree
    · rwa [List.forall_mem_singleton]

/-- The manifest of the working directory is there, and it is not found by any path that does not
name the directory. -/
theorem nameless_manifests_are_missing :
    (∀ p ∈ ["rule.json", "./rule.json", ".", "x/.."],
      namelessTree.isFile (Naming.designated namelessTree none Resolver.manifest ⟨p⟩) = true ∧
      (namelessTree.canonical
        (Naming.designated namelessTree none Resolver.manifest ⟨p⟩)).toOption =
          some ⟨"/d/rule.json"⟩ ∧
      ∀ r : Resolver, r.resolve namelessTree none (.path ⟨p⟩) =
        .error (.ruleNotFound p [Naming.designated namelessTree none Resolver.manifest ⟨p⟩])) ∧
    (∃ rule, Modules.loadRule namelessTree ⟨"/d/rule.json"⟩ = .ok rule) ∧
    namelessTree.isFile ⟨"../plugin.json"⟩ = true ∧
      Plugins.resolve namelessTree none none "../plugin.json" =
        .error (.pluginNotFound "../plugin.json" [⟨"../plugin.json"⟩]) ∧
    Resolver.resolveDirectory namelessTree ⟨"."⟩ =
      .error (.ruleNotFound "./rule.json" [⟨"./rule.json"⟩]) := by
  have hrules : ∀ p ∈ ["rule.json", "./rule.json", ".", "x/.."],
      namelessTree.isFile (Naming.designated namelessTree none Resolver.manifest ⟨p⟩) = true ∧
      (namelessTree.canonical
        (Naming.designated namelessTree none Resolver.manifest ⟨p⟩)).toOption =
          some ⟨"/d/rule.json"⟩ ∧
      (Naming.designated namelessTree none Resolver.manifest ⟨p⟩).fileName? ≠ none ∧
      Naming.moduleName? (Naming.designated namelessTree none Resolver.manifest ⟨p⟩)
        Resolver.manifest = none := by
    decide +kernel
  have hmissing : ∀ p ∈ ["rule.json", "./rule.json", ".", "x/.."],
      Resolver.resolvePath namelessTree ⟨p⟩ =
        .error (.ruleNotFound p [Naming.designated namelessTree none Resolver.manifest ⟨p⟩]) := by
    intro p hp
    obtain ⟨hfile, -, hfileName, hname⟩ := hrules p hp
    rcases Resolver.resolvePath_cases rfl hfile hfileName with ⟨-, h⟩ | ⟨-, stem, hstem, -⟩
    · exact h
    · cases hname.symm.trans hstem
  refine ⟨fun p hp => ⟨(hrules p hp).1, (hrules p hp).2.1, fun r => hmissing p hp⟩,
    loadRule_namelessTree, by decide +kernel, ?_, ?_⟩
  · have htext : Naming.looksLikePath "../plugin.json" = true := by decide +kernel
    have hf : Naming.designated namelessTree none Plugins.manifest ⟨"../plugin.json"⟩ =
        ⟨"../plugin.json"⟩ := by decide +kernel
    have hname : Naming.moduleName? ⟨"../plugin.json"⟩ Plugins.manifest = none := by decide +kernel
    rcases Plugins.resolve_cases none htext hf (by decide +kernel) (by decide +kernel) with
      ⟨-, h⟩ | ⟨-, stem, hstem, -⟩
    · exact h
    · cases hname.symm.trans hstem
  · have hpaths : (Resolver.moduleFiles namelessTree ⟨"."⟩).toOption =
        some [⟨"./rule.json"⟩] := by decide +kernel
    rw [Resolver.resolveDirectory, eq_ok_of_toOption hpaths]
    change List.mapM _ _ = _
    rw [List.mapM_cons, hmissing "./rule.json" (by decide)]
    rfl

end ProseLinter
