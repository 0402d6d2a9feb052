import ProseLinter.Loading.Error
import ProseLinter.Report.Template

/-!
# Finding report formats

A format is asked for by the name of a built-in or registered one, or by the path of a template
module, which is looked for from the base directory first.

* `Formatters.register` adds a format; built-in ones cannot be replaced.
* `Formatters.resolve` finds a format.
-/

namespace ProseLinter

/-- The registered formats by name. -/
structure Formatters where
  registered : List (String × Formatter)

namespace Formatters

/-- No registered formats. -/
def empty : Formatters :=
  ⟨[]⟩

/-- Registers a format in the place of one of the same name. -/
def register (fs : Formatters) (name : String) (f : Formatter) : Except LintError Formatters :=
  if (Formatter.builtins.lookup name).isSome then .error (.config (.builtinFormatter name))
  else .ok ⟨(name, f) :: fs.registered.filter (·.1 != name)⟩

/-- The files that a specifier may stand for. -/
def candidates (specifier : String) (base? : Option Path) : List Path :=
  let path : Path := ⟨specifier⟩
  match base? with
  | some base => if path.isAbsolute then [path] else [base.join path, path]
  | none => [path]

/-- The format that a specifier asks for. -/
def resolve (fs : Formatters) (files : FileTree) (specifier : String) (base? : Option Path) :
    Except LintError Formatter :=
  match Formatter.builtins.lookup specifier with
  | some f => .ok f
  | none =>
    match fs.registered.lookup specifier with
    | some f => .ok f
    | none =>
      match (candidates specifier base?).find? files.isFile with
      | some path => ((Template.load files path).map (·.format)).mapError .invalidModule
      | none => .error (.formatterNotFound specifier)

/-- The names of all formats in increasing order. -/
def names (fs : Formatters) : List String :=
  (Formatter.builtins.map (·.1) ++ fs.registered.map (·.1)).mergeSort (· ≤ ·)

end Formatters

end ProseLinter
