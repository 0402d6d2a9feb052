import ProseLinter.Loading.Candidate
import ProseLinter.Loading.Module
import ProseLinter.Loading.Registry

/-!
# Plugins

A plugin brings several rules, which are registered under the plugin's name, a slash and their own
name. A plugin's name is looked for in the base directory and in the `plugins` directory of the
user's own directory.

* `Plugins.resolve` finds a plugin and reads its rules.
* `Plugins.load` registers them one after the other, up to the first that is refused.
-/

namespace ProseLinter

/-- A plugin that was found: its name, its file and its rules under their own names. -/
structure PluginBundle where
  name : String
  path : Path
  rules : List (String × Rule)

/-- The names under which the rules of a plugin are registered. -/
def PluginBundle.names (b : PluginBundle) : List String :=
  b.rules.map fun r => b.name ++ "/" ++ r.1

namespace Plugins

/-- The name of the manifest of a plugin in a directory. -/
def manifest : String := "plugin.json"

/-- The directories in which the name of a plugin is looked for. -/
def directories (home? base? : Option Path) : List Path :=
  base?.toList ++ (home?.map fun home => home.join ⟨"plugins"⟩).toList

/-- The namespace and file of a plugin given by name. -/
def locateName (files : FileTree) (home? base? : Option Path) (name : String) :
    Except LintError (String × Path) :=
  let bare := Naming.normalizePlugin name
  if !Naming.isPlain bare then .error (.pluginNotFound name [])
  else
    let names := [Naming.pluginPrefix ++ bare, bare]
    let searched :=
      (directories home? base?).flatMap fun dir => Naming.candidates dir names manifest
    match searched.find? files.isFile with
    | some path => .ok (bare, Naming.canonicalOrSelf files path)
    | none => .error (.pluginNotFound name searched)

/-- The namespace and file of a plugin given by path. -/
def locatePath (files : FileTree) (base? : Option Path) (text : String) :
    Except LintError (String × Path) :=
  let path := Naming.fromBase files base? ⟨text⟩
  let file := if files.isDirectory path then path.join ⟨manifest⟩ else path
  let missing := LintError.pluginNotFound text [file]
  if !files.isFile file then .error missing
  else
    match Naming.moduleName? file manifest with
    | some stem => .ok (Naming.normalizePlugin stem, Naming.canonicalOrSelf files file)
    | none => .error missing

/-- The namespace and file of the plugin that a text asks for. -/
def locate (files : FileTree) (home? base? : Option Path) (text : String) :
    Except LintError (String × Path) :=
  if Naming.looksLikePath text then locatePath files base? text
  else locateName files home? base? text

/-- The plugin that a text asks for. -/
def resolve (files : FileTree) (home? base? : Option Path) (text : String) :
    Except LintError PluginBundle := do
  let (name, path) ← locate files home? base? text
  let plugin ← (Modules.loadPlugin files path).mapError .invalidModule
  return ⟨name, path, plugin.rules.map fun (localName, rule) => (localName, rule.toRule)⟩

/-- The entries that a plugin asks for. -/
def entries (b : PluginBundle) : List RuleEntry :=
  b.rules.map fun (localName, rule) =>
    ⟨b.name ++ "/" ++ localName, rule, .plugin b.name b.path, RuleOption.default⟩

/-- Finds a plugin and registers its rules; the names are those of its rules. -/
def load (files : FileTree) (home? base? : Option Path) (text : String) (registry : Registry) :
    Except LintError (List String) × Registry :=
  match resolve files home? base? text with
  | .error e => (.error e, registry)
  | .ok b =>
    let (outcome, registry) := registry.enterAll (entries b)
    (outcome.map fun _ => b.names, registry)

end Plugins

end ProseLinter
