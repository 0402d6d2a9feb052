import ProseLinter.Engine.Executor
import ProseLinter.Loading.Plugin
import ProseLinter.Loading.Resolver
import ProseLinter.Report.Formatters

/-!
# Engines

An engine holds a configuration and works on a registry, which other engines may share. It loads
the rules that its configuration names before it lints for the first time, and again after a reset.

* `Engine.Step` is a step of an engine: it changes the engine and the registry, and may fail with
  what it changed so far still in place.
* `Engine.setUp` loads the configured rules, then the directories, the plugins and the added rules.
-/

namespace ProseLinter

/-- An engine. -/
structure Engine where
  config : Config
  resolver : Resolver
  /-- The user's own directory, in which plugins are looked for. -/
  pluginHome : Option Path
  formatters : Formatters
  parsers : Parsers
  /-- The rules that were added, in order. -/
  added : List Specifier
  /-- Whether the configured rules are loaded. -/
  isSetUp : Bool

namespace Engine

/-- The extension of a text for which none is given. -/
def defaultExtension : String := "txt"

/-- An engine for a configuration, whose base directory has to be there. -/
def ofConfig (files : FileTree) (config : Config) (resolver : Resolver)
    (pluginHome : Option Path) : Except LintError Engine := do
  if let some dir := config.rulesBaseDirectory then
    if !files.isDirectory dir then throw (.config (.baseNotDirectory dir))
  return { config, resolver, pluginHome, formatters := .empty
           parsers := Parsers.default.restrict config.extensions, added := [], isSetUp := false }

/-- An engine and the registry it works on. -/
structure State where
  engine : Engine
  registry : Registry

/-- A step of an engine. -/
abbrev Step (α : Type) := ExceptT LintError (StateM State) α

/-- What a step gives, or why it failed, and the state it leaves. -/
def exec {α : Type} (step : Step α) (s : State) : Except LintError α × State :=
  step.run s

/-- The base directory of an engine. -/
def base? (e : Engine) : Option Path :=
  e.config.rulesBaseDirectory

/-! ### Loading rules -/

/-- The entry of a rule that was found, with the option that the configuration has for it. -/
def entry (e : Engine) (found : ResolvedRule) : RuleEntry :=
  ⟨found.name, found.rule, found.origin, (e.config.option? found.name).getD RuleOption.default⟩

/-- Registers a rule that was found. -/
def register (found : ResolvedRule) : Step String := do
  let s ← get
  match s.registry.enter (s.engine.entry found) with
  | .ok (_, registry) =>
    set { s with registry }
    return found.name
  | .error e => throw e

/-- Finds and registers the rule of a specifier. -/
def loadRule (files : FileTree) (spec : Specifier) : Step String := do
  let s ← get
  match s.engine.resolver.resolve files s.engine.base? spec with
  | .ok found => register found
  | .error e => throw e

/-- Finds the rules of a directory and registers them one after the other. -/
def loadDirectory (files : FileTree) (dir : Path) : Step (List String) := do
  match Resolver.resolveDirectory files dir with
  | .ok found => found.mapM register
  | .error e => throw e

/-- Finds a plugin and registers its rules. -/
def loadPlugin (files : FileTree) (text : String) : Step (List String) := do
  let s ← get
  let (outcome, registry) := Plugins.load files s.engine.pluginHome s.engine.base? text s.registry
  set { s with registry }
  match outcome with
  | .ok names => return names
  | .error e => throw e

/-- Loads the rules that the configuration names and then those that were added. -/
def loadAll (files : FileTree) : Step Unit := do
  let s ← get
  let config := s.engine.config
  config.rules.forM fun text => discard (loadRule files (.ofText text))
  config.rulePaths.forM fun dir => discard (loadDirectory files dir)
  config.plugins.forM fun text => discard (loadPlugin files text)
  s.engine.added.forM fun spec => discard (loadRule files spec)

/-- Loads all rules, unless this was done before. -/
def setUp (files : FileTree) : Step Unit := do
  let s ← get
  if s.engine.isSetUp then return
  loadAll files
  modify fun s => { s with engine := { s.engine with isSetUp := true } }

/-- Loads a rule beside the configured ones and remembers it. -/
def addRule (files : FileTree) (spec : Specifier) : Step String := do
  setUp files
  let name ← loadRule files spec
  modify fun s => { s with engine := { s.engine with added := s.engine.added ++ [spec] } }
  return name

/-- Empties the registry; the configured rules will be loaded again. -/
def reset : Step Unit :=
  modify fun s => ⟨{ s.engine with isSetUp := false }, .empty⟩

/-- Sets the base directory. -/
def setBase (dir : Path) : Step Unit :=
  modify fun s =>
    { s with engine := { s.engine with
        config := { s.engine.config with rulesBaseDirectory := some dir } } }

/-! ### Linting -/

/-- The rules that run: those registered, with the engine's own options before those they were
registered with. -/
def activeRules (s : State) : List ActiveRule :=
  s.registry.entries.filterMap fun e => ActiveRule.ofEntry e (s.engine.config.option? e.name)

/-- Lints files. -/
def executeOnFiles (files : FileTree) (paths : List Path) : Step (List FileResult) := do
  setUp files
  let s ← get
  return Executor.executeOnFiles files s.engine.parsers (activeRules s) paths

/-- Lints a text of an extension. -/
def executeOnText (files : FileTree) (text extension : String) : Step (List FileResult) := do
  setUp files
  let s ← get
  return Executor.executeOnText s.engine.parsers (activeRules s) text extension

/-- The configured format. -/
def formatter (e : Engine) (files : FileTree) : Except LintError Formatter :=
  e.formatters.resolve files (e.config.formatterName.getD Formatter.defaultName) e.base?

/-- The report of results in the configured format. -/
def formatResults (e : Engine) (files : FileTree) (results : List FileResult) :
    Except LintError (Except TooWide String) :=
  (e.formatter files).map (· results)

end Engine

end ProseLinter
