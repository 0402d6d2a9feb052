import Mathlib.Data.List.Find
import ProseLinter.Proofs.Files.Below
import ProseLinter.Proofs.Loading.NameAndPath

/-!
# Where modules are looked for

A name is only looked for below a few directories, however it is written: every file that it may
stand for is a directory with names behind it. What is found, and what is reported as searched,
depends on these files only. A plugin reads its manifest and, for a rule that is given as a path, a
file of its own directory.

* `Naming.below_of_mem_candidates` : the files that a plain name may stand for.
* `Resolver.resolveName_congr` and `Plugins.locateName_congr` : what a name finds depends on the
  files that are looked at.
* `Modules.loadPluginRule_file_cases` : a rule that is given as a path is refused, or read from
  inside the directory of the plugin.
* `lookup_stays_inside` : all of this together.
-/

namespace ProseLinter

namespace Path

/-- A path inside a directory. The empty path is the directory in which relative paths start, which
may also be written as a dot. -/
def Inside (p dir : Path) : Prop :=
  p.Below dir ∨ dir.text = "" ∧ p.Below ⟨"."⟩

end Path

/-- A module file looks the same in both trees, as it is written and in its canonical form. -/
structure FileTree.SameModule (t t' : FileTree) (p : Path) : Prop where
  written : t.SameAt t' p
  canonical : t.SameAt t' (Naming.canonicalOrSelf t p)

theorem FileTree.SameAt.canonicalOrSelf_eq {t t' : FileTree} {p : Path} (h : t.SameAt t' p) :
    Naming.canonicalOrSelf t p = Naming.canonicalOrSelf t' p := by
  rw [Naming.canonicalOrSelf, Naming.canonicalOrSelf, h.canonical_eq]

/-! ### Candidates -/

namespace Naming

/-- A plain name may have slashes and dots behind it, but none in front and no two dots. -/
theorem descends_of_isPlain {bare : String} (h : isPlain bare = true) :
    (Path.mk bare).Descends := by
  obtain ⟨name, hcomponents⟩ : ∃ name, (Path.mk bare).components = [.normal name] := by
    rw [isPlain] at h
    split at h
    · next name hname => exact ⟨name, hname⟩
    · cases h
  obtain ⟨first, rest, hparts⟩ := List.exists_cons_of_ne_nil (Path.mk bare).parts_ne_nil
  have habsolute : (Path.mk bare).isAbsolute = false := by
    -- An absolute path begins with the root, which is no name.
    apply eq_false_of_ne_true
    intro habsolute
    rw [Path.isAbsolute_of_parts hparts] at habsolute
    rw [Path.components_of_parts hparts, Path.head, if_pos (by simpa using habsolute)]
      at hcomponents
    cases hcomponents
  refine ⟨habsolute, ?_, ?_⟩
  · apply Path.not_mem_parts_of_not_mem_components habsolute
    simp [hcomponents]
  · rw [hparts, List.head?_cons]
    intro hdot
    rw [Path.components_of_relative hparts habsolute, if_pos (Option.some.inj hdot)] at hcomponents
    cases hcomponents

/-- The files that a plain name may stand for are below the directory in which it is looked for. -/
theorem below_of_mem_candidates {lead manifest bare : String} {dir f : Path}
    (hlead : Path.IsName lead) (hmanifest : Path.IsName manifest) (hbare : isPlain bare = true)
    (hf : f ∈ candidates dir [lead ++ bare, bare] manifest) : f.Below dir := by
  have hdescends := descends_of_isPlain hbare
  obtain ⟨name, hname, hfile⟩ := mem_candidates_iff.1 hf
  have hname : (Path.mk name).Descends := by
    rcases List.mem_cons.1 hname with rfl | hname
    · exact hdescends.append_left hlead
    · rwa [List.mem_singleton.1 hname]
  rcases hfile with ⟨ext, hext, rfl⟩ | rfl
  · -- The dot and the extension are glued to whatever the name ends in, be it a slash.
    have hlong : ∀ ext ∈ moduleExtensions, 2 < ("." ++ ext).length := by decide
    rw [String.append_assoc]
    apply Path.Descends.below_join
    apply hname.append_right _ (hlong ext hext)
    rw [String.toList_append, List.mem_append, not_or]
    exact ⟨by decide, (not_mem_of_mem_moduleExtensions hext).2⟩
  · -- The manifest is in a directory of that name.
    exact (Path.below_join_of_isName _ hmanifest).trans (hname.below_join dir)

end Naming

/-! ### Modules -/

namespace Modules

variable {t t' : FileTree} {path : Path}

theorem readAs_congr {α : Type} {decode : Json.Decoder α} (h : t.readText path = t'.readText path) :
    readAs t path decode = readAs t' path decode := by
  rw [readAs, readAs, readJson, readJson, h]

/-- Reading a rule reads one file. -/
theorem loadRule_congr (h : t.readText path = t'.readText path) :
    loadRule t path = loadRule t' path := by
  rw [loadRule, loadRule, readAs_congr h]

/-- The directory of a plugin. -/
def pluginDirectory (path : Path) : Path :=
  path.parent?.getD ⟨"."⟩

theorem inside_of_staysInside {q : Path} (h : staysInside q = true) (dir : Path) :
    (dir.join q).Inside dir := by
  simp only [staysInside, Bool.and_eq_true, Bool.not_eq_true', List.contains_eq_mem,
    decide_eq_false_iff_not] at h
  obtain ⟨habsolute, hparent⟩ := h
  have hdots := Path.not_mem_parts_of_not_mem_components habsolute hparent
  exact (Path.below_join _ habsolute hdots).imp_right fun ⟨hdir, _, hbelow⟩ => ⟨hdir, hbelow⟩

/-- A rule that a plugin gives as a path is refused whatever files there are, or it is read from a
file inside the directory of the plugin. -/
theorem loadPluginRule_file_cases (path : Path) (name text : String) :
    (∃ err, ∀ files, loadPluginRule files path name (.file text) = .error err) ∨
      ((pluginDirectory path).join ⟨text⟩).Inside (pluginDirectory path) ∧
        ∀ files, loadPluginRule files path name (.file text) =
          loadRule files ((pluginDirectory path).join ⟨text⟩) := by
  cases hname : isRuleName name with
  | false => exact .inl ⟨_, fun files => by rw [loadPluginRule, hname]; rfl⟩
  | true =>
    -- Whether the path stays inside is decided before any file is looked at.
    cases hstays : staysInside ⟨text⟩ with
    | false => exact .inl ⟨_, fun files => by simp only [loadPluginRule, hname, hstays]; rfl⟩
    | true =>
      exact .inr ⟨inside_of_staysInside hstays _,
        fun files => by simp only [loadPluginRule, hname, hstays]; rfl⟩

/-- Reading a plugin reads its manifest and files inside its directory. -/
theorem loadPlugin_congr (hmanifest : t.readText path = t'.readText path)
    (hinside : ∀ p : Path, p.Inside (pluginDirectory path) → t.readText p = t'.readText p) :
    loadPlugin t path = loadPlugin t' path := by
  have hrule (name : String) (rule : PluginRule) :
      loadPluginRule t path name rule = loadPluginRule t' path name rule := by
    cases rule with
    | inline m => rfl
    | file text =>
      rcases loadPluginRule_file_cases path name text with ⟨err, hrefused⟩ | ⟨hfile, hread⟩
      · rw [hrefused t, hrefused t']
      · rw [hread t, hread t', loadRule_congr (hinside _ hfile)]
  simp only [loadPlugin, readAs_congr hmanifest, hrule]

end Modules

/-! ### Rules -/

namespace Resolver

variable {r : Resolver} {t t' files : FileTree} {base? : Option Path} {n : String} {f : Path}
  {found : ResolvedRule}

/-- The directories in which the name of a rule is looked for. -/
def directories (r : Resolver) (base? : Option Path) : List Path :=
  base?.toList ++ (r.home.map homeRules).toList

/-- The files that are looked for under a name, none if the name is not plain. -/
def searched (r : Resolver) (base? : Option Path) (n : String) : List Path :=
  if Naming.isPlain (Naming.normalizeRule n) then r.filesOf base? (Naming.normalizeRule n) else []

theorem exists_of_mem_candidatesIn {dir? : Option Path} {names : List String}
    (h : f ∈ candidatesIn dir? names) :
    ∃ dir ∈ dir?.toList, f ∈ Naming.candidates dir names manifest := by
  cases dir? with
  | none => cases h
  | some dir => exact ⟨dir, by simp, h⟩

/-- The files that are looked for under a name are below one of the directories. -/
theorem below_of_mem_searched (h : f ∈ r.searched base? n) :
    ∃ dir ∈ r.directories base?, f.Below dir := by
  rw [searched] at h
  split at h
  · next hplain =>
    have hbelow {dir : Path} (hf : f ∈ Naming.candidates dir
        [Naming.rulePrefix ++ Naming.normalizeRule n, Naming.normalizeRule n] manifest) :
        f.Below dir :=
      Naming.below_of_mem_candidates Naming.isConvention_rule.isName_lead
        Naming.isConvention_rule.isName_manifest hplain hf
    rw [filesOf, List.mem_append] at h
    rcases h with hnear | hfar
    · obtain ⟨dir, hdir, hf⟩ := exists_of_mem_candidatesIn hnear
      exact ⟨dir, List.mem_append_left _ hdir, hbelow hf⟩
    · -- The user's own directory is left out if the catalog has the rule.
      split at hfar
      · cases hfar
      · obtain ⟨dir, hdir, hf⟩ := exists_of_mem_candidatesIn hfar
        exact ⟨dir, List.mem_append_right _ hdir, hbelow hf⟩
  · cases h

/-- The rule of a file depends on the file only. -/
theorem loadFile_congr (h : t.SameModule t' f) (name : String) :
    loadFile t name f = loadFile t' name f := by
  rw [loadFile, loadFile, ← h.written.canonicalOrSelf_eq,
    Modules.loadRule_congr h.canonical.readText_eq]

/-- What a name finds, in terms of the files that are looked for near and far. -/
theorem resolveName_of_isPlain (r : Resolver) (base? : Option Path) {n : String}
    (hplain : Naming.isPlain (Naming.normalizeRule n) = true) :
    ∃ near far,
      (∀ f ∈ near, f ∈ r.searched base? n) ∧
      (r.package? (Naming.normalizeRule n) = none → r.searched base? n = near ++ far) ∧
      ∀ files, r.resolveName files n base? =
        match near.find? files.isFile with
        | some path => loadFile files (Naming.normalizeRule n) path
        | none =>
          match r.bundled? (Naming.normalizeRule n)
              [Naming.rulePrefix ++ Naming.normalizeRule n, Naming.normalizeRule n] with
          | some found => .ok found
          | none =>
            match far.find? files.isFile with
            | some path => loadFile files (Naming.normalizeRule n) path
            | none => .error (.ruleNotFound n (near ++ far)) := by
  have hsearched : r.searched base? n = r.filesOf base? (Naming.normalizeRule n) := if_pos hplain
  refine ⟨candidatesIn base?
      [Naming.rulePrefix ++ Naming.normalizeRule n, Naming.normalizeRule n],
    candidatesIn (r.home.map homeRules)
      [Naming.rulePrefix ++ Naming.normalizeRule n, Naming.normalizeRule n], ?_, ?_, ?_⟩
  · intro f hf
    rw [hsearched, filesOf]
    exact List.mem_append_left _ hf
  · intro hpackage
    rw [hsearched, filesOf, hpackage]
    rfl
  · intro files
    simp only [resolveName, hplain]
    rfl

theorem resolveName_of_not_isPlain (hplain : Naming.isPlain (Naming.normalizeRule n) = false)
    (files : FileTree) : r.resolveName files n base? = .error (.ruleNotFound n []) := by
  simp [resolveName, hplain]

/-- What a name finds depends only on the files that are looked for. -/
theorem resolveName_congr (h : ∀ f ∈ r.searched base? n, t.SameModule t' f) :
    r.resolveName t n base? = r.resolveName t' n base? := by
  cases hplain : Naming.isPlain (Naming.normalizeRule n) with
  | false => rw [resolveName_of_not_isPlain hplain, resolveName_of_not_isPlain hplain]
  | true =>
    obtain ⟨near, far, hnear, hfar, hresolve⟩ := resolveName_of_isPlain r base? hplain
    have hfind : near.find? t.isFile = near.find? t'.isFile :=
      List.find?_congr fun f hf => (h f (hnear f hf)).written.isFile_eq
    rw [hresolve, hresolve, ← hfind]
    cases hfound : near.find? t.isFile with
    | some f => exact loadFile_congr (h f (hnear f (List.mem_of_find?_eq_some hfound))) _
    | none =>
      cases hbundled : r.bundled? (Naming.normalizeRule n)
          [Naming.rulePrefix ++ Naming.normalizeRule n, Naming.normalizeRule n] with
      | some found => rfl
      | none =>
        -- Only now the user's own directory is searched.
        have hmem {f : Path} (hf : f ∈ far) : t.SameModule t' f := by
          apply h
          rw [hfar (package?_eq_none_of_bundled? hbundled)]
          exact List.mem_append_right near hf
        have hfind : far.find? t.isFile = far.find? t'.isFile :=
          List.find?_congr fun f hf => (hmem hf).written.isFile_eq
        simp only [← hfind]
        cases hfound : far.find? t.isFile with
        | some f => exact loadFile_congr (hmem (List.mem_of_find?_eq_some hfound)) _
        | none => rfl

/-- The file of a rule that a name finds is one of those that are looked for. -/
theorem exists_mem_searched_of_resolveName (h : r.resolveName files n base? = .ok found)
    {file : Path} (horigin : found.origin = .file file) :
    ∃ f ∈ r.searched base? n, file = Naming.canonicalOrSelf files f := by
  obtain ⟨f, hf, hload⟩ := exists_file?_of_resolveName h horigin
  have hkey := (loadFile_map_name hload "").1
  rw [file?] at hf
  split at hf
  · next hplain =>
    refine ⟨f, ?_, ?_⟩
    · rw [searched, if_pos hplain]
      exact List.mem_of_find?_eq_some hf
    · rw [ResolvedRule.key, horigin, Prod.mk.injEq, Origin.file.injEq] at hkey
      exact hkey.2
  · cases hf

/-- No module that cannot be read is reported as one that was not found. -/
theorem loadFile_ne_ruleNotFound {name text : String} {paths : List Path} :
    loadFile files name f ≠ .error (.ruleNotFound text paths) := by
  rw [loadFile]
  -- The error says that the module is invalid.
  cases Modules.loadRule files (Naming.canonicalOrSelf files f) with
  | error err =>
    intro h
    cases h
  | ok rule =>
    intro h
    cases h

/-- When nothing is found, the files that are reported are those that were looked for. -/
theorem eq_searched_of_resolveName {text : String} {paths : List Path}
    (h : r.resolveName files n base? = .error (.ruleNotFound text paths)) :
    text = n ∧ paths = r.searched base? n := by
  cases hplain : Naming.isPlain (Naming.normalizeRule n) with
  | false =>
    rw [resolveName_of_not_isPlain hplain] at h
    cases h
    exact ⟨rfl, by rw [searched, hplain, if_neg Bool.false_ne_true]⟩
  | true =>
    obtain ⟨near, far, -, hfar, hresolve⟩ := resolveName_of_isPlain r base? hplain
    rw [hresolve] at h
    split at h
    · exact absurd h loadFile_ne_ruleNotFound
    · split at h
      · cases h
      · next hbundled =>
        split at h
        · exact absurd h loadFile_ne_ruleNotFound
        · cases h
          exact ⟨rfl, (hfar (package?_eq_none_of_bundled? hbundled)).symm⟩

end Resolver

/-! ### Plugins -/

namespace Plugins

variable {t t' files : FileTree} {home? base? : Option Path} {n : String} {f : Path}

/-- The files that are looked for under the name of a plugin, none if the name is not plain. -/
def searched (home? base? : Option Path) (n : String) : List Path :=
  if Naming.isPlain (Naming.normalizePlugin n) then
    (directories home? base?).flatMap fun dir =>
      Naming.candidates dir [Naming.pluginPrefix ++ Naming.normalizePlugin n,
        Naming.normalizePlugin n] manifest
  else []

/-- The files that are looked for under a name are below one of the directories. -/
theorem below_of_mem_searched (h : f ∈ searched home? base? n) :
    ∃ dir ∈ directories home? base?, f.Below dir := by
  rw [searched] at h
  split at h
  · next hplain =>
    obtain ⟨dir, hdir, hf⟩ := List.mem_flatMap.1 h
    exact ⟨dir, hdir, Naming.below_of_mem_candidates Naming.isConvention_plugin.isName_lead
      Naming.isConvention_plugin.isName_manifest hplain hf⟩
  · cases h

/-- The file of a plugin, in terms of the files that are looked for. -/
theorem locateName_eq (files : FileTree) (home? base? : Option Path) (n : String) :
    locateName files home? base? n =
      match (searched home? base? n).find? files.isFile with
      | some path => .ok (Naming.normalizePlugin n, Naming.canonicalOrSelf files path)
      | none => .error (.pluginNotFound n (searched home? base? n)) := by
  cases hplain : Naming.isPlain (Naming.normalizePlugin n) with
  | false => simp [locateName, searched, hplain]
  | true =>
    simp only [locateName, searched, hplain]
    rfl

/-- Where the name of a plugin leads depends only on the files that are looked for. -/
theorem locateName_congr (h : ∀ f ∈ searched home? base? n, t.SameAt t' f) :
    locateName t home? base? n = locateName t' home? base? n := by
  have hfind : (searched home? base? n).find? t.isFile =
      (searched home? base? n).find? t'.isFile :=
    List.find?_congr fun f hf => (h f hf).isFile_eq
  rw [locateName_eq, locateName_eq, ← hfind]
  cases hfound : (searched home? base? n).find? t.isFile with
  | some f => simp only [(h f (List.mem_of_find?_eq_some hfound)).canonicalOrSelf_eq]
  | none => rfl

/-- The file of a plugin that a name finds is one of those that are looked for. -/
theorem exists_mem_searched_of_locateName {place : String × Path}
    (h : locateName files home? base? n = .ok place) :
    ∃ f ∈ searched home? base? n, place.2 = Naming.canonicalOrSelf files f := by
  rw [locateName_eq] at h
  split at h
  · next f hfound =>
    cases h
    exact ⟨f, List.mem_of_find?_eq_some hfound, rfl⟩
  · cases h

/-- When nothing is found, the files that are reported are those that were looked for. -/
theorem eq_searched_of_locateName {err : LintError}
    (h : locateName files home? base? n = .error err) :
    err = .pluginNotFound n (searched home? base? n) := by
  rw [locateName_eq] at h
  split at h
  · cases h
  · exact (Except.error.inj h).symm

end Plugins

/-- However a name is written, every file that is looked for under it is the base directory or the
`rules` or `plugins` directory of the user with only names behind it. What a rule's or a plugin's
name finds depends on these files alone, and they are what is reported when nothing is found. A rule
that a plugin gives as a path is refused or read from inside the directory of the plugin, so that
reading a plugin depends on its manifest and on files of its directory. What is below a directory in
this sense leads, if it leads anywhere, to a place inside it. -/
theorem lookup_stays_inside :
    (∀ (r : Resolver) (base? : Option Path) (name : String),
      (∀ f ∈ r.searched base? name,
        ∃ dir ∈ base?.toList ++ (r.home.map fun home => home.join ⟨"rules"⟩).toList, f.Below dir) ∧
      (∀ t t', (∀ f ∈ r.searched base? name, t.SameModule t' f) →
        r.resolve t base? (.name name) = r.resolve t' base? (.name name)) ∧
      (∀ files found file, r.resolve files base? (.name name) = .ok found →
        found.origin = .file file →
          ∃ f ∈ r.searched base? name, file = Naming.canonicalOrSelf files f) ∧
      ∀ files text paths, r.resolve files base? (.name name) = .error (.ruleNotFound text paths) →
        text = name ∧ paths = r.searched base? name) ∧
    (∀ (home? base? : Option Path) (name : String),
      (∀ f ∈ Plugins.searched home? base? name,
        ∃ dir ∈ base?.toList ++ (home?.map fun home => home.join ⟨"plugins"⟩).toList,
          f.Below dir) ∧
      (∀ t t', (∀ f ∈ Plugins.searched home? base? name, t.SameAt t' f) →
        Plugins.locateName t home? base? name = Plugins.locateName t' home? base? name) ∧
      (∀ files place, Plugins.locateName files home? base? name = .ok place →
        ∃ f ∈ Plugins.searched home? base? name, place.2 = Naming.canonicalOrSelf files f) ∧
      ∀ files err, Plugins.locateName files home? base? name = .error err →
        err = .pluginNotFound name (Plugins.searched home? base? name)) ∧
    (∀ path : Path,
      (∀ name text,
        (∃ err, ∀ files, Modules.loadPluginRule files path name (.file text) = .error err) ∨
          ((Modules.pluginDirectory path).join ⟨text⟩).Inside (Modules.pluginDirectory path) ∧
            ∀ files, Modules.loadPluginRule files path name (.file text) =
              Modules.loadRule files ((Modules.pluginDirectory path).join ⟨text⟩)) ∧
      ∀ t t', t.readText path = t'.readText path →
        (∀ p : Path, p.Inside (Modules.pluginDirectory path) → t.readText p = t'.readText p) →
          Modules.loadPlugin t path = Modules.loadPlugin t' path) ∧
    ∀ (files : FileTree) (p dir : Path) (loc loc' : Location), p.Below dir →
      files.resolve dir = .ok loc → files.resolve p = .ok loc' → loc <+: loc' := by
  refine ⟨fun r base? name => ⟨?_, ?_, ?_, ?_⟩, fun home? base? name => ⟨?_, ?_, ?_, ?_⟩,
    fun path => ⟨?_, ?_⟩, ?_⟩
  · exact fun f hf => Resolver.below_of_mem_searched hf
  · exact fun t t' h => Resolver.resolveName_congr h
  · exact fun files found file h horigin => Resolver.exists_mem_searched_of_resolveName h horigin
  · exact fun files text paths h => Resolver.eq_searched_of_resolveName h
  · exact fun f hf => Plugins.below_of_mem_searched hf
  · exact fun t t' h => Plugins.locateName_congr h
  · exact fun files place h => Plugins.exists_mem_searched_of_locateName h
  · exact fun files err h => Plugins.eq_searched_of_locateName h
  · exact Modules.loadPluginRule_file_cases path
  · exact fun t t' hmanifest hinside => Modules.loadPlugin_congr hmanifest hinside
  · exact fun files p dir loc loc' h hdir hp => FileTree.isPrefix_of_below h hdir hp

end ProseLinter
