import ProseLinter.Proofs.Loading.NameAndPath

/-!
# The names of what is found

What is found under a text, at a path or in a directory has a name without a slash and without the
prefix of rules. The rules of a plugin have the name of the plugin, which has neither a slash nor
the prefix of plugins, a slash and a name of their own. So the origin of a rule says what its name
is like, and rules of different kinds never have the same name.

* `Origin.Names` : the names that rules of an origin may have.
* `Resolver.names_of_resolve`, `Resolver.names_of_resolveDirectory` and
  `Plugins.names_of_mem_entries` : what is found has such a name.
* `Origin.Names.eq_of_plugin` and `Origin.Names.isPlugin_eq` : which rules can have the same name.
* `Origin.Names.canonicalKey_iterate_append` : an option is kept under the name of its rule.
-/

namespace ProseLinter

/-- The names that rules of an origin may have; an object may have any name, and counts here as
having none. -/
inductive Origin.Names : Origin → String → Prop
  | bundled {package name : String} (h : Naming.IsBare Naming.rulePrefix name) :
      Names (.bundled package) name
  | file {path : Path} {name : String} (h : Naming.IsBare Naming.rulePrefix name) :
      Names (.file path) name
  | plugin {space rule : String} {path : Path} (hspace : Naming.IsBare Naming.pluginPrefix space)
      (hne : rule ≠ "") (hslash : '/' ∉ rule.toList) :
      Names (.plugin space path) (space ++ "/" ++ rule)

/-- The prefix of the package of a rule or, for a rule of a plugin, of the plugin. -/
def Origin.lead : Origin → String
  | plugin _ _ => Naming.pluginPrefix
  | _ => Naming.rulePrefix

/-- A specifier that is a text or a path as a caller writes it. -/
inductive Specifier.IsWritten : Specifier → Prop
  | text (text : String) : IsWritten (ofText text)
  | path (path : Path) : IsWritten (.path path)

/-! ### What names say -/

namespace Origin.Names

variable {o o' : Origin} {name space space' rule rule' : String} {path path' : Path}

/-- The name of a rule of a plugin has a slash, and that of any other rule has none. -/
theorem slash_mem_iff (h : o.Names name) : '/' ∈ name.toList ↔ o.isPlugin = true := by
  cases h with
  | bundled h => exact iff_of_false h.noSlash Bool.false_ne_true
  | file h => exact iff_of_false h.noSlash Bool.false_ne_true
  | plugin hspace hne hslash => exact iff_of_true (by simp) rfl

/-- A rule of a plugin never has the name of any other rule. -/
theorem isPlugin_eq (h : o.Names name) (h' : o'.Names name) : o.isPlugin = o'.isPlugin := by
  rw [Bool.eq_iff_iff, ← h.slash_mem_iff, ← h'.slash_mem_iff]

/-- What stands before the slash in the name of a rule of a plugin is the name of the plugin. -/
theorem isBare_of_plugin (h : (Origin.plugin space path).Names name) :
    Naming.IsBare Naming.pluginPrefix space := by
  cases h with
  | plugin hspace hne hslash => exact hspace

/-- Two rules of plugins have the same name only if both the plugins and the rules have. -/
theorem eq_of_plugin (h : (Origin.plugin space path).Names (space ++ "/" ++ rule))
    (h' : (Origin.plugin space' path').Names (space' ++ "/" ++ rule'))
    (heq : space ++ "/" ++ rule = space' ++ "/" ++ rule') : space = space' ∧ rule = rule' :=
  Naming.eq_of_append_slash_eq h.isBare_of_plugin.noSlash h'.isBare_of_plugin.noSlash heq

/-- An option that is written for the name of a rule, with the prefix of its package in front of it
any number of times, is kept under the name. -/
theorem canonicalKey_iterate_append (h : o.Names name) (n : Nat) :
    Naming.canonicalKey ((o.lead ++ ·)^[n] name) = name := by
  cases h with
  | bundled h => exact Naming.canonicalKey_iterate_append h n
  | file h => exact Naming.canonicalKey_iterate_append h n
  | plugin hspace hne hslash => exact Naming.canonicalKey_iterate_append_slash hspace _ n

end Origin.Names

/-! ### Rules -/

namespace Resolver

variable {r : Resolver} {files : FileTree} {base? : Option Path} {found : ResolvedRule}

/-- A bare name is one that rules of files and of the catalog may have. -/
theorem names_of_isBare (hkind : found.IsModule ∨ r.IsBundled found)
    (h : Naming.IsBare Naming.rulePrefix found.name) : found.origin.Names found.name := by
  rcases hkind with ⟨-, file, hfile⟩ | ⟨package, -, hbundled⟩
  · rw [hfile]
    exact .file h
  · rw [hbundled]
    exact .bundled h

/-- A rule that a name finds has what is left of the name. -/
theorem name_of_resolveName {n : String} (h : r.resolveName files n base? = .ok found) :
    found.name = Naming.normalizeRule n := by
  have hfile {path : Path} (hload : loadFile files (Naming.normalizeRule n) path = .ok found) :
      found.name = Naming.normalizeRule n :=
    (Prod.ext_iff.1 (loadFile_map_name hload "").1).1
  unfold resolveName at h
  extract_lets bare names near far at h
  split at h
  · cases h
  · split at h
    · exact hfile h
    · split at h
      · next hfound =>
        cases h
        obtain ⟨package, -, hpackage⟩ := List.exists_of_findSome?_eq_some hfound
        obtain ⟨rule, -, rfl⟩ := Option.map_eq_some_iff.1 hpackage
        rfl
      · split at h
        · exact hfile h
        · cases h

/-- A rule that a path finds has a name as its origin says. -/
theorem names_of_resolvePath {path : Path} (h : resolvePath files path = .ok found) :
    found.origin.Names found.name := by
  obtain ⟨file, stem, hstem, hload⟩ := exists_loadFile_of_resolvePath h
  obtain ⟨hname, horigin⟩ := Prod.mk.inj (loadFile_map_name hload "").1
  -- The name of a file has no slash, so what is left of it has none.
  rw [hname, horigin]
  exact .file (Naming.isBare_strip (by decide) (Naming.not_mem_of_moduleName? hstem) (by decide))

/-- What is found for a text or a path has a name as its origin says. -/
theorem names_of_resolve {spec : Specifier} (hspec : spec.IsWritten)
    (h : r.resolve files base? spec = .ok found) : found.origin.Names found.name := by
  cases hspec with
  | path path => exact names_of_resolvePath h
  | text text =>
    rw [Specifier.ofText] at h
    split at h
    · exact names_of_resolvePath h
    · -- A text that does not look like a path has no slash, so what is left of it has none.
      next hpath =>
      have hslash := Plugins.not_mem_of_looksLikePath_eq_false (eq_false_of_ne_true hpath)
      -- It is a rule of a file or of the catalog, and either may have such a name.
      refine names_of_isBare (resolveName_cases h) ?_
      rw [name_of_resolveName h]
      exact Naming.isBare_strip (by decide) hslash (by decide)

/-- The rules of a directory have names as their origins say. -/
theorem names_of_resolveDirectory {dir : Path} {all : List ResolvedRule}
    (h : resolveDirectory files dir = .ok all) :
    ∀ found ∈ all, found.origin.Names found.name := by
  rw [resolveDirectory] at h
  obtain ⟨paths, -, h⟩ := exists_of_bind_eq_ok h
  intro found hfound
  obtain ⟨path, -, hpath⟩ := exists_eq_ok_of_mem_mapM h found hfound
  exact names_of_resolvePath hpath

end Resolver

/-! ### Plugins -/

namespace Modules

variable {files : FileTree} {path : Path}

/-- A rule of a plugin that was read has a name of its own without a slash. -/
theorem isRuleName_of_loadPluginRule {name : String} {rule : PluginRule} {r : PatternRule}
    (h : loadPluginRule files path name rule = .ok r) : isRuleName name = true := by
  unfold loadPluginRule at h
  cases hname : isRuleName name with
  | true => rfl
  | false =>
    rw [hname] at h
    cases h

/-- The rules of a plugin that was read have names without slashes. -/
theorem isRuleName_of_loadPlugin {plugin : PluginModule} (h : loadPlugin files path = .ok plugin) :
    ∀ p ∈ plugin.rules, isRuleName p.1 = true := by
  rw [loadPlugin] at h
  obtain ⟨m, -, h⟩ := exists_of_bind_eq_ok h
  split at h
  · cases h
  · -- Each rule of the manifest was read under its own name.
    obtain ⟨rules, hrules, h⟩ := exists_of_bind_eq_ok h
    cases h
    intro p hp
    obtain ⟨q, -, hq⟩ := exists_eq_ok_of_mem_mapM hrules p hp
    obtain ⟨r, hr, rfl⟩ := exists_of_map_eq_ok hq
    exact isRuleName_of_loadPluginRule hr

end Modules

namespace Plugins

variable {files : FileTree} {home? base? : Option Path} {text : String} {b : PluginBundle}

/-- The name of a plugin that is located has neither a slash nor the prefix. -/
theorem isBare_of_locate {place : String × Path} (h : locate files home? base? text = .ok place) :
    Naming.IsBare Naming.pluginPrefix place.1 := by
  unfold locate at h
  split at h
  · obtain ⟨f, stem, -, hstem, rfl⟩ := exists_isFile_of_locatePath h
    exact Naming.isBare_strip (by decide) (Naming.not_mem_of_moduleName? hstem) (by decide)
  · next hpath =>
    have hslash := not_mem_of_looksLikePath_eq_false (eq_false_of_ne_true hpath)
    obtain ⟨f, -, rfl⟩ := exists_file?_of_locateName h
    exact Naming.isBare_strip (by decide) hslash (by decide)

/-- The rules of a plugin that was found have names as their origin says. -/
theorem names_of_mem_entries (h : resolve files home? base? text = .ok b) :
    ∀ x ∈ entries b, x.origin.Names x.name := by
  rw [resolve] at h
  obtain ⟨place, hplace, h⟩ := exists_of_bind_eq_ok h
  obtain ⟨plugin, hplugin, h⟩ := exists_of_bind_eq_ok h
  cases h
  intro x hx
  obtain ⟨rule, hrule, rfl⟩ := List.mem_map.1 hx
  obtain ⟨p, hp, rfl⟩ := List.mem_map.1 hrule
  have hname := Modules.isRuleName_of_loadPlugin (eq_ok_of_mapError hplugin) p hp
  rw [Modules.isRuleName, Bool.and_eq_true, bne_iff_ne] at hname
  exact .plugin (isBare_of_locate hplace) hname.1 (by simpa using hname.2)

end Plugins

end ProseLinter
