import ProseLinter.Files.Path

/-!
# Names of rules and plugins

A package name is the name of a rule or plugin behind a prefix that says which of the two it is.
The prefix does not count, however often it is repeated.

* `normalizeRule` and `normalizePlugin` take the prefixes away.
* `canonicalKey` is the name under which an option is found.
* `looksLikePath` tells a path from a name.
-/

namespace ProseLinter.Naming

/-- The prefix of the package name of a rule. -/
def rulePrefix : String := "kotolint-rule-"

/-- The prefix of the package name of a plugin. -/
def pluginPrefix : String := "kotolint-plugin-"

/-- The text without any repetition of `lead` at its start. -/
def stripAll (lead text : List Char) : List Char :=
  match lead.isPrefixOf? text with
  | some rest => if rest.length < text.length then stripAll lead rest else text
  | none => text
termination_by text.length

/-- The name of a rule without the package prefix. -/
def normalizeRule (name : String) : String :=
  String.ofList (stripAll rulePrefix.toList name.toList)

/-- The name of a plugin without the package prefix. -/
def normalizePlugin (name : String) : String :=
  String.ofList (stripAll pluginPrefix.toList name.toList)

/-- The parts of a name before and after its first slash. -/
def splitAtSlash? (name : String) : Option (String × String) :=
  let cs := name.toList
  match cs.dropWhile (· != '/') with
  | _ :: rest => some (String.ofList (cs.takeWhile (· != '/')), String.ofList rest)
  | [] => none

/-- The name under which the options of a rule are kept: before a slash stands a plugin. -/
def canonicalKey (name : String) : String :=
  match splitAtSlash? name with
  | some (plugin, rule) => normalizePlugin plugin ++ "/" ++ rule
  | none => normalizeRule name

/-- The extensions of module files. -/
def moduleExtensions : List String := ["json", "jsonc"]

/-- Whether a path has the extension of a module file. -/
def hasModuleExtension (p : Path) : Bool :=
  match p.extension? with
  | some e => moduleExtensions.contains e
  | none => false

/-- Whether a text names a file rather than a rule or a plugin. -/
def looksLikePath (text : String) : Bool :=
  let p : Path := ⟨text⟩
  p.isAbsolute || text.toList.contains '/' || hasModuleExtension p

/-- Whether a name is a single component of a path. -/
def isPlain (name : String) : Bool :=
  match (Path.mk name).components with
  | [.normal _] => true
  | _ => false

end ProseLinter.Naming
