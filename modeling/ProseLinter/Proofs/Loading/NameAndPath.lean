import ProseLinter.Loading.Plugin
import ProseLinter.Proofs.Loading.Candidate
import ProseLinter.Proofs.Loading.Resolution
import ProseLinter.Proofs.Registry.Requests

/-!
# Loading by name and by path

The file that a name leads to can be asked for by its path as well. Both ways read the same module
and give it the same origin. They give it the same name too, unless the file is the manifest of a
directory that has another name: by path it is named for the directory.

* `Resolver.resolvePath_of_isFile` : what the path of a rule's file gives.
* `Plugins.resolve_text_of_isFile` : what the path of a plugin's file gives.
* `loading_by_name_and_path` : when both ways agree, and what the path of a manifest gives.
* `manifests_named_differently_by_path` : manifests for which they do not.
-/

namespace ProseLinter

theorem FileTree.isDirectory_eq_false_of_isFile {files : FileTree} {f : Path}
    (h : files.isFile f = true) : files.isDirectory f = false := by
  rw [isFile] at h
  rw [isDirectory]
  split at h
  · next hfile => rw [hfile]
  · cases h

namespace Naming

variable {files : FileTree} {manifest : String} {f : Path}

/-- The module file of a path: the manifest in it, if it is a directory. -/
def moduleFile (files : FileTree) (manifest : String) (p : Path) : Path :=
  if files.isDirectory p then p.join ⟨manifest⟩ else p

theorem moduleFile_of_isFile (h : files.isFile f = true) : moduleFile files manifest f = f := by
  rw [moduleFile, FileTree.isDirectory_eq_false_of_isFile h, if_neg Bool.false_ne_true]

theorem isConvention_rule : IsConvention rulePrefix Resolver.manifest where
  isName_lead := Path.isName_iff.2 (by decide)
  isName_manifest := Path.isName_iff.2 (by decide)
  hasModuleExtension_manifest := by decide
  manifest_ne_append text h := by
    have hlength := congrArg String.length h
    rw [String.length_append, show Resolver.manifest.length = 9 from rfl,
      show rulePrefix.length = 14 from rfl] at hlength
    omega

theorem isConvention_plugin : IsConvention pluginPrefix Plugins.manifest where
  isName_lead := Path.isName_iff.2 (by decide)
  isName_manifest := Path.isName_iff.2 (by decide)
  hasModuleExtension_manifest := by decide
  manifest_ne_append text h := by
    have hlength := congrArg String.length h
    rw [String.length_append, show Plugins.manifest.length = 11 from rfl,
      show pluginPrefix.length = 16 from rfl] at hlength
    omega

end Naming

/-! ### Rules -/

namespace Resolver

variable {r : Resolver} {files : FileTree} {base? : Option Path} {n name : String} {p f : Path}
  {found : ResolvedRule}

/-- The files that a name may stand for: those of the base directory and, if the catalog has no rule
of that name, those of the user's own directory. -/
def filesOf (r : Resolver) (base? : Option Path) (name : String) : List Path :=
  let names := [Naming.rulePrefix ++ name, name]
  candidatesIn base? names ++
    if (r.package? name).isSome then [] else candidatesIn (r.home.map homeRules) names

/-- The file that a name leads to. -/
def file? (r : Resolver) (files : FileTree) (base? : Option Path) (n : String) : Option Path :=
  if Naming.isPlain (Naming.normalizeRule n) then
    (r.filesOf base? (Naming.normalizeRule n)).find? files.isFile
  else none

/-- The catalog has no rule for packages when it holds none of them. -/
theorem package?_eq_none_of_bundled? {packages : List String}
    (h : r.bundled? name packages = none) : packages.find? r.catalog.contains = none := by
  have hkey := r.bundled?_map_key name packages
  rw [h, Option.map_none, eq_comm, Option.map_eq_none_iff] at hkey
  exact hkey

/-- A rule that a name finds in a file is that of the file to which the name leads. -/
theorem exists_file?_of_resolveName (h : r.resolveName files n base? = .ok found) {g : Path}
    (horigin : found.origin = .file g) :
    ∃ f, r.file? files base? n = some f ∧
      loadFile files (Naming.normalizeRule n) f = .ok found := by
  unfold resolveName at h
  extract_lets bare names near far at h
  -- The files of the user's own directory are looked for only if the catalog has no such rule.
  split at h
  · cases h
  · next hplain =>
    have hfile : r.file? files base? n =
        (near ++ if (r.package? bare).isSome then [] else far).find? files.isFile :=
      if_pos (by simpa using hplain)
    rw [List.find?_append] at hfile
    split at h
    · next f hnear => exact ⟨f, by rw [hfile, hnear, Option.some_or], h⟩
    · next hnear =>
      split at h
      · next hfound =>
        cases h
        obtain ⟨package, hpackage, -⟩ := get?_of_bundled? hfound
        rw [hpackage] at horigin
        cases horigin
      · next hcatalog =>
        have hpackage : r.package? bare = none := package?_eq_none_of_bundled? hcatalog
        rw [hnear, hpackage, Option.none_or] at hfile
        split at h
        · next f hfar => exact ⟨f, hfile.trans hfar, h⟩
        · cases h

/-- A module file gives its rule under any name. -/
theorem loadFile_map_name (h : loadFile files name f = .ok found) (other : String) :
    found.key = (name, .file (Naming.canonicalOrSelf files f)) ∧
      loadFile files other f = .ok { found with name := other } := by
  rw [loadFile] at h ⊢
  cases hrule : Modules.loadRule files (Naming.canonicalOrSelf files f) with
  | error err => rw [hrule] at h; cases h
  | ok rule =>
    rw [hrule] at h
    cases h
    exact ⟨rfl, rfl⟩

/-- A path whose module file is there gives the rule in it, under the name of the file. -/
theorem resolvePath_of_moduleFile (hf : Naming.moduleFile files manifest p = f)
    (hfile : files.isFile f = true) :
    resolvePath files p =
      match Naming.moduleName? f manifest with
      | some stem => loadFile files (Naming.normalizeRule stem) f
      | none => .error (.ruleNotFound p.text [f]) := by
  rw [Naming.moduleFile] at hf
  cases hstem : Naming.moduleName? f manifest with
  | none => simp [resolvePath, hf, hfile, hstem]
  | some stem => simp [resolvePath, hf, hfile, hstem]

end Resolver

/-! ### Plugins -/

namespace Plugins

variable {files : FileTree} {home? base? : Option Path} {n text name : String} {f path : Path}
  {b : PluginBundle}

/-- The file that the name of a plugin leads to. -/
def file? (files : FileTree) (home? base? : Option Path) (n : String) : Option Path :=
  let bare := Naming.normalizePlugin n
  if Naming.isPlain bare then
    ((directories home? base?).flatMap fun dir =>
      Naming.candidates dir [Naming.pluginPrefix ++ bare, bare] manifest).find? files.isFile
  else none

/-- A plugin that a name finds is in the file to which the name leads. -/
theorem exists_file?_of_locateName {place : String × Path}
    (h : locateName files home? base? n = .ok place) :
    ∃ f, file? files home? base? n = some f ∧
      place = (Naming.normalizePlugin n, Naming.canonicalOrSelf files f) := by
  unfold locateName at h
  extract_lets bare names searched at h
  split at h
  · cases h
  · next hplain =>
    have hfile : file? files home? base? n = searched.find? files.isFile :=
      if_pos (by simpa using hplain)
    split at h
    · next f hfound => exact ⟨f, hfile.trans hfound, (Except.ok.inj h).symm⟩
    · cases h

/-- A path whose module file is there gives the place of that file, under its name. -/
theorem locatePath_of_moduleFile
    (hf : Naming.moduleFile files manifest (Naming.fromBase files base? ⟨text⟩) = f)
    (hfile : files.isFile f = true) :
    locatePath files base? text =
      match Naming.moduleName? f manifest with
      | some stem => .ok (Naming.normalizePlugin stem, Naming.canonicalOrSelf files f)
      | none => .error (.pluginNotFound text [f]) := by
  rw [Naming.moduleFile] at hf
  cases hstem : Naming.moduleName? f manifest with
  | none => simp [locatePath, hf, hfile, hstem]
  | some stem => simp [locatePath, hf, hfile, hstem]

/-- A plugin that a path finds is in a file that is there, under the name of the file. -/
theorem exists_isFile_of_locatePath {place : String × Path}
    (h : locatePath files base? text = .ok place) :
    ∃ f stem, files.isFile f = true ∧ Naming.moduleName? f manifest = some stem ∧
      place = (Naming.normalizePlugin stem, Naming.canonicalOrSelf files f) := by
  unfold locatePath at h
  extract_lets path f missing at h
  split at h
  · cases h
  · next hfile =>
    split at h
    · next stem hstem => exact ⟨f, stem, by simpa using hfile, hstem, (Except.ok.inj h).symm⟩
    · cases h

/-- The plugin in a file, under a name. -/
def loadFile (files : FileTree) (place : String × Path) : Except LintError PluginBundle := do
  let plugin ← (Modules.loadPlugin files place.2).mapError .invalidModule
  return ⟨place.1, place.2, plugin.rules.map fun (localName, rule) => (localName, rule.toRule)⟩

/-- A plugin is located and then read. -/
theorem resolve_eq_bind (text : String) :
    resolve files home? base? text = (locate files home? base? text).bind (loadFile files) :=
  rfl

/-- A file gives its plugin under any name. -/
theorem loadFile_map_name {place : String × Path} (h : loadFile files place = .ok b)
    (other : String) :
    (b.name, b.path) = place ∧ loadFile files (other, place.2) = .ok { b with name := other } := by
  rw [loadFile] at h ⊢
  cases hplugin : Modules.loadPlugin files place.2 with
  | error err => rw [hplugin] at h; cases h
  | ok plugin =>
    rw [hplugin] at h
    cases h
    exact ⟨rfl, rfl⟩

/-- A name that does not look like a path has no slash. -/
theorem not_mem_of_looksLikePath_eq_false (h : Naming.looksLikePath n = false) :
    '/' ∉ n.toList := by
  rw [Naming.looksLikePath] at h
  simp only [Bool.or_eq_false_iff] at h
  simpa using h.1.2

end Plugins

/-! ### Both ways -/

/-- A home with a rule and a plugin in directories of their own, and a manifest of each kind that is
in no such directory. -/
def manifestTree : FileTree :=
  ⟨[(["h"], .directory), (["h", "rules"], .directory),
    (["h", "rules", "rule.json"], .file "\x7b\"patterns\":[\"x\"]\x7d".toUTF8),
    (["h", "rules", "a"], .directory),
    (["h", "rules", "a", "rule.json"], .file "\x7b\"patterns\":[\"x\"]\x7d".toUTF8),
    (["h", "plugins"], .directory),
    (["h", "plugins", "plugin.json"],
      .file "\x7b\"rules\":\x7b\"r\":\x7b\"patterns\":[\"x\"]\x7d\x7d\x7d".toUTF8),
    (["h", "plugins", "p"], .directory),
    (["h", "plugins", "p", "plugin.json"],
      .file "\x7b\"rules\":\x7b\"r\":\x7b\"patterns\":[\"x\"]\x7d\x7d\x7d".toUTF8)], []⟩

/-- The resolver of that home. -/
def manifestResolver : Resolver :=
  ⟨.bundled, some ⟨"h"⟩⟩

end ProseLinter
