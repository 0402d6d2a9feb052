import ProseLinter.Loading.Candidate
import ProseLinter.Loading.Error
import ProseLinter.Loading.Module
import ProseLinter.Loading.Specifier
import ProseLinter.Rule.Catalog

/-!
# Finding rules

A name is looked for in the base directory, then in the catalog, then in the `rules` directory of
the user's own directory. A path is looked for from the base directory first and then as it is; a
directory stands for the manifest in it.

* `Resolver.resolve` finds the rule of a specifier.
* `Resolver.resolveDirectory` finds all rules of a directory, in the order of their paths.
-/

namespace ProseLinter

/-- A rule that was found, with its name and origin. -/
structure ResolvedRule where
  name : String
  rule : Rule
  origin : Origin

/-- What rules are looked for in, beside the base directory. -/
structure Resolver where
  catalog : Catalog
  /-- The user's own directory. -/
  home : Option Path

namespace Resolver

/-- The name of the manifest of a rule in a directory. -/
def manifest : String := "rule.json"

/-- The directory of the user's own rules. -/
def homeRules (home : Path) : Path :=
  home.join ⟨"rules"⟩

/-- The rule of a module file, under a name. -/
def loadFile (files : FileTree) (name : String) (path : Path) :
    Except LintError ResolvedRule := do
  let file := Naming.canonicalOrSelf files path
  let rule ← (Modules.loadRule files file).mapError .invalidModule
  return ⟨name, rule.toRule, .file file⟩

/-- The files that are looked for in a directory. -/
def candidatesIn (dir? : Option Path) (names : List String) : List Path :=
  match dir? with
  | some dir => Naming.candidates dir names manifest
  | none => []

/-- The first of the packages that the catalog holds. -/
def bundled? (r : Resolver) (name : String) (packages : List String) : Option ResolvedRule :=
  packages.findSome? fun package =>
    (r.catalog.get? package).map fun rule => ⟨name, rule, .bundled package⟩

/-- The rule of a name. -/
def resolveName (r : Resolver) (files : FileTree) (name : String) (base? : Option Path) :
    Except LintError ResolvedRule :=
  let bare := Naming.normalizeRule name
  if !Naming.isPlain bare then .error (.ruleNotFound name [])
  else
    let names := [Naming.rulePrefix ++ bare, bare]
    let near := candidatesIn base? names
    let far := candidatesIn (r.home.map homeRules) names
    match near.find? files.isFile with
    | some path => loadFile files bare path
    | none =>
      match r.bundled? bare names with
      | some found => .ok found
      | none =>
        match far.find? files.isFile with
        | some path => loadFile files bare path
        | none => .error (.ruleNotFound name (near ++ far))

/-- The rule of a path. -/
def resolvePath (files : FileTree) (path : Path) : Except LintError ResolvedRule :=
  let file := if files.isDirectory path then path.join ⟨manifest⟩ else path
  let missing := LintError.ruleNotFound path.text [file]
  if !files.isFile file then .error missing
  else
    match Naming.moduleName? file manifest with
    | some stem => loadFile files (Naming.normalizeRule stem) file
    | none => .error missing

/-- The rule of a specifier. -/
def resolve (r : Resolver) (files : FileTree) (base? : Option Path) :
    Specifier → Except LintError ResolvedRule
  | .name name => r.resolveName files name base?
  | .path path => resolvePath files (Naming.fromBase files base? path)
  | .object name rule => .ok ⟨Naming.normalizeRule name, rule, .object⟩

/-- The module files of a directory, in the order of their paths. -/
def moduleFiles (files : FileTree) (dir : Path) : Except LintError (List Path) := do
  let all ← (files.children dir).mapError (.file dir)
  return (all.filter fun p => Naming.hasModuleExtension p && files.isFile p).mergeSort
    fun p q => !q.lt p

/-- The rules of a directory. -/
def resolveDirectory (files : FileTree) (dir : Path) : Except LintError (List ResolvedRule) := do
  (← moduleFiles files dir).mapM (resolvePath files)

end Resolver

end ProseLinter
