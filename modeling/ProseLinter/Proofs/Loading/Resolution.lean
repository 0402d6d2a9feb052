import ProseLinter.Loading.Plugin
import ProseLinter.Loading.Resolver
import ProseLinter.Proofs.Outcome

/-!
# What is found

A rule that was found is the rule of a module file, a rule of the catalog or an object handed in,
and its origin says which. The rules of modules are new objects; those of the catalog come from the
first package of the catalog that the name may stand for.

* `resolve_cases` : the three kinds of rules that are found.
* `resolve_map_key_congr` : the name and origin of what is found do not depend on the rules of the
  catalog, only on its packages.
-/

namespace ProseLinter

/-- Whether a rule came from a plugin. -/
def Origin.isPlugin : Origin → Bool
  | plugin _ _ => true
  | _ => false

/-- The rule of a module file, a new object. -/
def ResolvedRule.IsModule (found : ResolvedRule) : Prop :=
  found.rule.tag = none ∧ ∃ file, found.origin = .file file

/-- A text never hands in an object. -/
theorem Specifier.ofText_ne_object (text name : String) (rule : Rule) :
    ofText text ≠ .object name rule := by
  unfold ofText
  split <;> exact Specifier.noConfusion

/-- What identifies a rule that was found: its name and its origin. -/
def ResolvedRule.key (found : ResolvedRule) : String × Origin :=
  (found.name, found.origin)

namespace Resolver

variable {r r' : Resolver} {files : FileTree} {base? : Option Path} {found : ResolvedRule}

/-- The package of the catalog that a name stands for, the prefixed one first. -/
def package? (r : Resolver) (name : String) : Option String :=
  [Naming.rulePrefix ++ name, name].find? r.catalog.contains

/-- A rule of the catalog, from the package that its name stands for. -/
def IsBundled (r : Resolver) (found : ResolvedRule) : Prop :=
  ∃ package, r.package? found.name = some package ∧ found.origin = .bundled package

/-! ### Modules -/

theorem isModule_of_loadFile {name : String} {path : Path}
    (h : loadFile files name path = .ok found) : found.IsModule := by
  rw [loadFile] at h
  cases hrule : Modules.loadRule files (Naming.canonicalOrSelf files path) with
  | error err => rw [hrule] at h; cases h
  | ok rule =>
    rw [hrule] at h
    cases h
    exact ⟨rfl, _, rfl⟩

/-- A rule that a path finds is that of a module file, under the name of the file. -/
theorem exists_loadFile_of_resolvePath {path : Path} (h : resolvePath files path = .ok found) :
    ∃ file stem, Naming.moduleName? file manifest = some stem ∧
      loadFile files (Naming.normalizeRule stem) file = .ok found := by
  unfold resolvePath at h
  extract_lets file missing at h
  split at h
  · cases h
  · split at h
    · next stem hstem => exact ⟨file, stem, hstem, h⟩
    · cases h

theorem isModule_of_resolvePath {path : Path} (h : resolvePath files path = .ok found) :
    found.IsModule := by
  obtain ⟨file, stem, -, hload⟩ := exists_loadFile_of_resolvePath h
  exact isModule_of_loadFile hload

/-- The rules of a directory are rules of module files. -/
theorem isModule_of_resolveDirectory {dir : Path} {all : List ResolvedRule}
    (h : resolveDirectory files dir = .ok all) : ∀ found ∈ all, found.IsModule := by
  rw [resolveDirectory] at h
  obtain ⟨paths, -, h⟩ := exists_of_bind_eq_ok h
  intro found hfound
  obtain ⟨path, -, hpath⟩ := exists_eq_ok_of_mem_mapM h found hfound
  exact isModule_of_resolvePath hpath

/-! ### The catalog -/

/-- What the catalog has for a list of packages is the rule of the first one that it holds. -/
theorem bundled?_map_key (r : Resolver) (name : String) (packages : List String) :
    (r.bundled? name packages).map (·.key) =
      (packages.find? r.catalog.contains).map fun package => (name, .bundled package) := by
  induction packages with
  | nil => rfl
  | cons package packages ih =>
    rw [bundled?, List.findSome?_cons, List.find?_cons, Catalog.contains]
    cases r.catalog.get? package with
    | none => exact ih
    | some rule => rfl

/-- Catalogs with the same packages have rules of the same name and origin. -/
theorem bundled?_map_key_congr
    (hcatalog : ∀ package, r.catalog.contains package = r'.catalog.contains package)
    (name : String) (packages : List String) :
    (r.bundled? name packages).map (·.key) = (r'.bundled? name packages).map (·.key) := by
  rw [bundled?_map_key, bundled?_map_key, funext hcatalog]

/-- A rule of the catalog is the one that the catalog has for the package it comes from. -/
theorem get?_of_bundled? {name : String} {packages : List String}
    (h : r.bundled? name packages = some found) :
    ∃ package, found.origin = .bundled package ∧ r.catalog.get? package = some found.rule := by
  obtain ⟨package, -, hfound⟩ := List.exists_of_findSome?_eq_some h
  obtain ⟨rule, hrule, rfl⟩ := Option.map_eq_some_iff.1 hfound
  exact ⟨package, rfl, hrule⟩

theorem isBundled_of_bundled? {name : String}
    (h : r.bundled? name [Naming.rulePrefix ++ name, name] = some found) : r.IsBundled found := by
  have hkey := r.bundled?_map_key name [Naming.rulePrefix ++ name, name]
  rw [h, Option.map_some, eq_comm, Option.map_eq_some_iff] at hkey
  obtain ⟨package, hpackage, hfound⟩ := hkey
  obtain ⟨hname, horigin⟩ := Prod.ext_iff.1 hfound
  exact ⟨package, by rw [package?, ← show name = found.name from hname, hpackage], horigin.symm⟩

/-! ### Specifiers -/

/-- The rule of a name is that of a module file, or the one that the catalog has for the name. -/
theorem isModule_or_bundled?_of_resolveName {name : String}
    (h : r.resolveName files name base? = .ok found) :
    found.IsModule ∨ r.bundled? (Naming.normalizeRule name)
      [Naming.rulePrefix ++ Naming.normalizeRule name, Naming.normalizeRule name] =
        some found := by
  unfold resolveName at h
  extract_lets bare names near far at h
  -- The places are searched in turn: the base directory, the catalog, the user's own directory.
  split at h
  · cases h
  · split at h
    · exact .inl (isModule_of_loadFile h)
    · split at h
      · next hfound =>
        cases h
        exact .inr hfound
      · split at h
        · exact .inl (isModule_of_loadFile h)
        · cases h

/-- The rule of a name is that of a module file or one of the catalog. -/
theorem resolveName_cases {name : String} (h : r.resolveName files name base? = .ok found) :
    found.IsModule ∨ r.IsBundled found :=
  (isModule_or_bundled?_of_resolveName h).imp_right isBundled_of_bundled?

/-- What is found is the rule of a module file, one of the catalog, or the object handed in. -/
theorem resolve_cases {spec : Specifier} (h : r.resolve files base? spec = .ok found) :
    (found.IsModule ∨ r.IsBundled found) ∨
      ∃ name rule, spec = .object name rule ∧ found = ⟨Naming.normalizeRule name, rule, .object⟩ := by
  cases spec with
  | name name => exact .inl (resolveName_cases h)
  | path path => exact .inl (.inl (isModule_of_resolvePath h))
  | object name rule =>
    cases h
    exact .inr ⟨name, rule, rfl, rfl⟩

/-- A rule that is found in the catalog is the one that the catalog has for its package. -/
theorem get?_of_resolve {spec : Specifier} {package : String}
    (h : r.resolve files base? spec = .ok found) (horigin : found.origin = .bundled package) :
    r.catalog.get? package = some found.rule := by
  have hmodule : ¬ found.IsModule := by
    rintro ⟨-, file, hfile⟩
    rw [hfile] at horigin
    cases horigin
  cases spec with
  | name name =>
    obtain ⟨package', horigin', hrule⟩ :=
      get?_of_bundled? ((isModule_or_bundled?_of_resolveName h).resolve_left hmodule)
    rw [horigin] at horigin'
    cases horigin'
    exact hrule
  | path path => exact absurd (isModule_of_resolvePath h) hmodule
  | object name rule =>
    cases h
    cases horigin

/-- The name and origin of what is found depend on the packages of the catalog only. -/
theorem resolve_map_key_congr (files : FileTree) (base? : Option Path)
    (hhome : r.home = r'.home)
    (hcatalog : ∀ package, r.catalog.contains package = r'.catalog.contains package)
    (spec : Specifier) :
    (r.resolve files base? spec).map (·.key) = (r'.resolve files base? spec).map (·.key) := by
  cases spec with
  | path path => rfl
  | object name rule => rfl
  | name name =>
    simp only [resolve, resolveName, hhome]
    split
    · rfl
    · split
      · rfl
      · -- No file of the base directory has the rule, so the catalogs are asked for it.
        have hkey := bundled?_map_key_congr hcatalog (Naming.normalizeRule name)
          [Naming.rulePrefix ++ Naming.normalizeRule name, Naming.normalizeRule name]
        split
        · next found hfound =>
          rw [hfound, Option.map_some, eq_comm, Option.map_eq_some_iff] at hkey
          obtain ⟨found', hfound', hkey⟩ := hkey
          rw [hfound']
          exact congrArg Except.ok hkey.symm
        · next hnone =>
          rw [hnone, Option.map_none, eq_comm, Option.map_eq_none_iff] at hkey
          rw [hkey]

end Resolver

namespace Plugins

/-- The rules of a plugin that was found are new objects. -/
theorem tag_eq_none_of_resolve {files : FileTree} {home? base? : Option Path} {text : String}
    {b : PluginBundle} (h : resolve files home? base? text = .ok b) :
    ∀ x ∈ entries b, x.rule.tag = none := by
  rw [resolve] at h
  cases hlocate : locate files home? base? text with
  | error err => rw [hlocate] at h; cases h
  | ok place =>
    rw [hlocate] at h
    cases hplugin : Modules.loadPlugin files place.2 with
    | error err =>
      simp only [Except.bind, bind, hplugin] at h
      cases h
    | ok plugin =>
      simp only [Except.bind, bind, hplugin] at h
      cases h
      intro x hx
      obtain ⟨rule, hrule, rfl⟩ := List.mem_map.1 hx
      obtain ⟨module, -, rfl⟩ := List.mem_map.1 hrule
      rfl

/-- The rules of a plugin come from the plugin. -/
theorem origin_of_mem_entries {b : PluginBundle} {x : RuleEntry} (h : x ∈ entries b) :
    x.origin = .plugin b.name b.path := by
  obtain ⟨rule, -, rfl⟩ := List.mem_map.1 h
  rfl

/-- The rules of a plugin are registered with the default option. -/
theorem option_of_mem_entries {b : PluginBundle} {x : RuleEntry} (h : x ∈ entries b) :
    x.option = .default := by
  obtain ⟨rule, -, rfl⟩ := List.mem_map.1 h
  rfl

end Plugins

end ProseLinter
