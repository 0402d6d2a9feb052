import ProseLinter.Config.Naming
import ProseLinter.Config.RuleOption
import ProseLinter.Files.FileTree
import ProseLinter.Json.Reader
import ProseLinter.Json.Schema

/-!
# Configurations

A configuration as written leaves any part out. It is read from lenient JSON, checked against a
schema, and turned into the form that an engine holds: lists without repetitions, options under
canonical names, extensions in small letters without dots.

* `ConfigOptions.ofText` reads and checks a text.
* `ConfigOptions.normalize` is the form that an engine holds.
* `Config.discover` finds the configuration file nearest to a directory.
-/

namespace ProseLinter

/-- A configuration as written. -/
structure ConfigOptions where
  rules : Option (List String) := none
  rulePaths : Option (List Path) := none
  plugins : Option (List String) := none
  rulesBaseDirectory : Option Path := none
  formatterName : Option String := none
  options : Option (List (String × RuleOption)) := none
  extensions : Option (List String) := none

/-- A configuration as an engine holds it. -/
structure Config where
  rules : List String := []
  rulePaths : List Path := []
  plugins : List String := []
  rulesBaseDirectory : Option Path := none
  formatterName : Option String := none
  options : List (String × RuleOption) := []
  extensions : List String := []

/-- What is wrong with a configuration. -/
inductive ConfigError where
  | notJson (text : List Char) (fault : Json.Fault)
  | violation (v : Schema.Violation)
  | undecodable (error : DecodeError)
  | unreadable (fault : FileFault)
  | baseNotDirectory (path : Path)
  | builtinFormatter (name : String)

/-- The text of a configuration error. -/
def ConfigError.message : ConfigError → String
  | notJson text fault => "Invalid JSON: " ++ fault.message text
  | violation v => "Config validation failed: " ++ v.text ++ " at " ++ v.pointer
  | undecodable error => "Invalid config: " ++ error.message
  | unreadable fault => "Failed to read config: " ++ fault.message
  | baseNotDirectory path => "Rules base directory '" ++ path.text ++ "' is not a directory"
  | builtinFormatter name => "Formatter '" ++ name ++ "' is built in and cannot be replaced"

namespace ConfigOptions

/-! ### JSON -/

/-- The severities that a configuration may name. -/
def severityChoice : Schema :=
  .choice ["error", "warning", "warn", "info", "off"]

/-- The schema of a configuration. -/
def schema : Schema :=
  .closed
    [("$schema", .string 0),
     ("rules", .array (.string 1)),
     ("rulePaths", .array (.string 1)),
     ("plugins", .array (.string 1)),
     ("rulesBaseDirectory", .string 0),
     ("formatterName", .string 1),
     ("extensions", .array (.string 1)),
     ("options",
      .map (.oneOf [.boolean, severityChoice, .opened [("severity", severityChoice)]]))]

/-- Reads a path. -/
def decodePath : Json.Decoder Path := fun v =>
  (Json.decodeStringAs "path string" v).map Path.mk

/-- Reads what is said about a rule. -/
def decodeRuleOption : Json.Decoder RuleOption := fun v =>
  .ok (RuleOption.ofJson v)

/-- The reading of a configuration: any field may be absent. -/
def record : Json.Record ConfigOptions where
  name := "ConfigOptions"
  fieldNames :=
    ["rules", "rulePaths", "plugins", "rulesBaseDirectory", "formatterName", "options",
     "extensions"]
  closed := false
  start := {}
  set name v o :=
    match name with
    | "rules" => return { o with rules := ← strings v }
    | "rulePaths" =>
      return { o with rulePaths := ← Json.decodeOption (Json.decodeList decodePath) v }
    | "plugins" => return { o with plugins := ← strings v }
    | "rulesBaseDirectory" =>
      return { o with rulesBaseDirectory := ← Json.decodeOption decodePath v }
    | "formatterName" =>
      return { o with formatterName := ← Json.decodeOption Json.decodeString v }
    | "options" =>
      return { o with options := ← Json.decodeOption (Json.decodeMap decodeRuleOption) v }
    | _ => return { o with extensions := ← strings v }
where
  strings (v : Json) : Except DecodeError (Option (List String)) :=
    Json.decodeOption (Json.decodeList Json.decodeString) v

/-- Reads a configuration, without the schema. -/
def decode : Json.Decoder ConfigOptions :=
  record.decode fun _ o => .ok o

/-- The JSON form of a configuration; what is left out is null. -/
def toJson (o : ConfigOptions) : Json :=
  Json.ofFields
    [("rules", .ofOption .strings o.rules),
     ("rulePaths", .ofOption (fun ps => .strings (ps.map (·.text))) o.rulePaths),
     ("plugins", .ofOption .strings o.plugins),
     ("rulesBaseDirectory", .ofOption (fun p => .string p.text) o.rulesBaseDirectory),
     ("formatterName", .ofOption .string o.formatterName),
     ("options",
      .ofOption (fun os => .ofFields (os.map fun (k, v) => (k, v.toJson))) o.options),
     ("extensions", .ofOption .strings o.extensions)]

/-- Reads a text of lenient JSON and checks it against the schema; an empty text says nothing. -/
def ofText (text : String) : Except ConfigError ConfigOptions := do
  let v? ← (Json.read text.toList).mapError (.notJson text.toList)
  let v := v?.getD (.object [])
  match schema.violation? v with
  | some violation => throw (.violation violation)
  | none => (decode v).mapError .undecodable

/-- Reads a file. Relative directories in it start from the file's own directory, which is also
the base directory if the file names none. -/
def ofFile (files : FileTree) (path : Path) : Except ConfigError ConfigOptions := do
  let text ← (files.readText path).mapError .unreadable
  let o ← ofText text
  let base : Path := match path.parent? with
    | some p => if p.text == "" then ⟨"."⟩ else p
    | none => ⟨"."⟩
  return { o with
    rulePaths := o.rulePaths.map (·.map base.join)
    rulesBaseDirectory := some (match o.rulesBaseDirectory with
      | some dir => base.join dir
      | none => base) }

/-! ### The normal form -/

/-- The list without the entries that are the same as one before them. -/
def firstOccurrences {α : Type} (same : α → α → Bool) (items : List α) : List α :=
  items.foldl (fun out a => if out.any (same · a) then out else out ++ [a]) []

/-- An extension in small letters and without leading dots. -/
def normalizeExtension (e : String) : String :=
  (String.ofList (e.toList.dropWhile (· == '.'))).toLower

/-- The form that an engine holds. -/
def normalize (o : ConfigOptions) : Config where
  rules := firstOccurrences (· == ·) (o.rules.getD [])
  rulePaths := firstOccurrences Path.same (o.rulePaths.getD [])
  plugins := firstOccurrences (· == ·) (o.plugins.getD [])
  rulesBaseDirectory := o.rulesBaseDirectory
  formatterName := o.formatterName.filter (· != "")
  options := (o.options.getD []).map fun (name, option) => (Naming.canonicalKey name, option)
  extensions :=
    firstOccurrences (· == ·) (((o.extensions.getD []).map normalizeExtension).filter (· != ""))

end ConfigOptions

namespace Config

/-- What is said about a rule. -/
def option? (c : Config) (name : String) : Option RuleOption :=
  c.options.lookup name

/-- The names of configuration files, the first that is there counting. -/
def fileNames : List String :=
  [".kotolintrc.json", ".kotolintrc.jsonc", ".kotolintrc"]

/-- The configuration file nearest to a directory, in it or in one of those above it. -/
def discover (files : FileTree) (dir : Path) : Option Path :=
  let start := (files.canonical dir).toOption.getD dir
  start.ancestors.findSome? fun above =>
    (fileNames.map fun name => above.join ⟨name⟩).find? files.isFile

end Config

end ProseLinter
