import ProseLinter.Config.Naming
import ProseLinter.Files.FileTree

/-!
# Candidate files

A name may stand for several files of a directory: with one of the extensions of modules, or a
manifest in a directory of that name, the prefixed name before the bare one.

* `candidates` are these files in the order in which they are looked for.
* `moduleName?` is the name that a module file gives to what it holds.
-/

namespace ProseLinter.Naming

/-- The files of a directory that names may stand for. -/
def candidates (dir : Path) (names : List String) (manifest : String) : List Path :=
  names.flatMap fun name =>
    moduleExtensions.map (fun e => dir.join ⟨name ++ "." ++ e⟩)
      ++ [(dir.join ⟨name⟩).join ⟨manifest⟩]

/-- The name of a module file: its stem, or the name of its directory for a manifest. -/
def moduleName? (file : Path) (manifest : String) : Option String := do
  let name ← file.fileName?
  if name == manifest then (← file.parent?).fileName? else file.stem?

/-- The canonical form of a path, or the path itself if it leads nowhere. -/
def canonicalOrSelf (files : FileTree) (p : Path) : Path :=
  (files.canonical p).toOption.getD p

/-- The path as seen from the base directory if it is there, and otherwise as it is. -/
def fromBase (files : FileTree) (base? : Option Path) (p : Path) : Path :=
  match base? with
  | some base => if !p.isAbsolute && files.pathExists (base.join p) then base.join p else p
  | none => p

end ProseLinter.Naming
