import ProseLinter.Files.FileTree
import ProseLinter.Json.Decode
import ProseLinter.Json.Reader

/-!
# Errors of rules and modules

What can be wrong with the written form of a rule or a plugin, and why a rule can fail.

* `RuleError.message` is the text of an error.
-/

namespace ProseLinter

/-- What is wrong with the description of a pattern rule. -/
inductive PatternFault where
  | noPatterns
  | noNodeTypes
  | emptyPattern
deriving DecidableEq, Repr

/-- The text of a fault. -/
def PatternFault.message : PatternFault → String
  | noPatterns => "'patterns' must contain at least one entry"
  | noNodeTypes => "'node_types' must not be empty"
  | emptyPattern => "patterns must not be empty strings"

/-- What is wrong with the content of a module file. -/
inductive ModuleFault where
  | notJson (text : List Char) (fault : Json.Fault)
  | empty
  | undecodable (error : DecodeError)
  | invalidRule (fault : PatternFault)
  | noRules
  | invalidRuleName (name : String)
  | invalidInlineRule (name : String) (fault : PatternFault)
  | outsidePlugin (name : String)

/-- The text of a fault. -/
def ModuleFault.message : ModuleFault → String
  | notJson text fault => fault.message text
  | empty => "file is empty"
  | undecodable error => error.message
  | invalidRule fault => fault.message
  | noRules => "plugin exports no rules"
  | invalidRuleName name => "invalid rule name '" ++ name ++ "'"
  | invalidInlineRule name fault => name ++ ": " ++ fault.message
  | outsidePlugin name =>
    "rule '" ++ name ++ "' must point to a file inside the plugin directory"

/-- Why a rule failed or a module could not be loaded. -/
inductive RuleError where
  | invalidModule (path : Path) (fault : ModuleFault)
  | invalidOptions (rule : String) (reason : String)
  | failed (reason : String)
  | file (path : Path) (fault : FileFault)

/-- The text of an error. -/
def RuleError.message : RuleError → String
  | invalidModule path fault => "Invalid module '" ++ path.text ++ "': " ++ fault.message
  | invalidOptions rule reason => "Invalid options for rule '" ++ rule ++ "': " ++ reason
  | failed reason => "Rule failed: " ++ reason
  | file path fault => "I/O error reading '" ++ path.text ++ "': " ++ fault.message

end ProseLinter
