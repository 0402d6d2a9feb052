import ProseLinter.Config.Naming
import ProseLinter.Rule.Basic

/-!
# Specifiers

A rule is asked for by name, by path, or by handing in the rule itself under a name.

* `Specifier.ofText` tells names from paths.
-/

namespace ProseLinter

/-- How a rule is asked for. -/
inductive Specifier where
  | name (name : String)
  | path (path : Path)
  | object (name : String) (rule : Rule)

namespace Specifier

/-- The specifier that a text stands for. -/
def ofText (text : String) : Specifier :=
  if Naming.looksLikePath text then .path ⟨text⟩ else .name text

/-- The text of a specifier. -/
def text : Specifier → String
  | .name n => n
  | .path p => p.text
  | .object n _ => n

end Specifier

end ProseLinter
