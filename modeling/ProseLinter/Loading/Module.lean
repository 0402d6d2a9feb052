import ProseLinter.Rule.Pattern

/-!
# Module files

A module is a file of lenient JSON. A rule module describes one pattern rule; a plugin module
names several, each described in place or in a file of its own inside the plugin's directory.

* `Modules.loadRule` reads a rule module.
* `Modules.loadPlugin` reads a plugin module and the rule modules it points to.
-/

namespace ProseLinter.Modules

/-- The value of a file of lenient JSON. -/
def readJson (files : FileTree) (path : Path) : Except RuleError Json := do
  let text ← (files.readText path).mapError (.file path)
  match Json.read text.toList with
  | .ok (some v) => return v
  | .ok none => throw (.invalidModule path .empty)
  | .error fault => throw (.invalidModule path (.notJson text.toList fault))

/-- Reads the value of a file as a type. -/
def readAs {α : Type} (files : FileTree) (path : Path) (decode : Json.Decoder α) :
    Except RuleError α := do
  let v ← readJson files path
  (decode v).mapError fun e => .invalidModule path (.undecodable e)

/-- The pattern rule of a rule module. -/
def loadRule (files : FileTree) (path : Path) : Except RuleError PatternRule := do
  let m ← readAs files path PatternModule.decode
  (PatternRule.ofModule m).mapError fun fault => .invalidModule path (.invalidRule fault)

/-! ### Plugins -/

/-- How a plugin gives one of its rules. -/
inductive PluginRule where
  | file (path : String)
  | inline (m : PatternModule)

/-- Reads how a plugin gives one of its rules: a string is the path of a rule module. -/
def PluginRule.decode : Json.Decoder PluginRule
  | .string s => .ok (.file s)
  | v =>
    match PatternModule.decode v with
    | .ok m => .ok (.inline m)
    | .error _ => .error (.noAlternative "PluginRuleEntry")

/-- The written form of a plugin. -/
structure PluginManifest where
  description : Option String
  rules : List (String × PluginRule)

namespace PluginManifest

/-- A plugin whose fields are read one by one. -/
structure Draft where
  description : Option String := none
  rules : Option (List (String × PluginRule)) := none

/-- The reading of a plugin: the rules are required. -/
def record : Json.Record Draft where
  name := "PluginManifest"
  fieldNames := ["description", "rules"]
  closed := true
  start := {}
  set name v d :=
    match name with
    | "description" => return { d with description := ← Json.decodeOption Json.decodeString v }
    | _ => return { d with rules := some (← Json.decodeMap PluginRule.decode v) }

/-- Reads a plugin. -/
def decode : Json.Decoder PluginManifest :=
  record.decode fun shape d => do
    let some rules := d.rules | record.absent shape "rules"
    return { description := d.description, rules }

end PluginManifest

/-- A plugin with its rules, in increasing order of their names. -/
structure PluginModule where
  description : Option String
  rules : List (String × PatternRule)

/-- Whether a name can name a rule of a plugin. -/
def isRuleName (name : String) : Bool :=
  name != "" && !name.toList.contains '/'

/-- Whether a path stays inside the directory it starts from. -/
def staysInside (path : Path) : Bool :=
  !path.isAbsolute && !path.components.contains .parent

/-- One rule of the plugin at a path. -/
def loadPluginRule (files : FileTree) (path : Path) (name : String) (rule : PluginRule) :
    Except RuleError PatternRule := do
  if !isRuleName name then throw (.invalidModule path (.invalidRuleName name))
  match rule with
  | .inline m =>
    (PatternRule.ofModule m).mapError fun fault =>
      .invalidModule path (.invalidInlineRule name fault)
  | .file text =>
    let file : Path := ⟨text⟩
    if !staysInside file then throw (.invalidModule path (.outsidePlugin name))
    loadRule files ((path.parent?.getD ⟨"."⟩).join file)

/-- The plugin at a path, with all its rules. -/
def loadPlugin (files : FileTree) (path : Path) : Except RuleError PluginModule := do
  let manifest ← readAs files path PluginManifest.decode
  if manifest.rules.isEmpty then throw (.invalidModule path .noRules)
  let rules ← manifest.rules.mapM fun (name, rule) =>
    (loadPluginRule files path name rule).map fun r => (name, r)
  return { description := manifest.description, rules }

end ProseLinter.Modules
