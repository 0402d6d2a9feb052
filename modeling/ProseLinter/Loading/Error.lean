import ProseLinter.Config.Basic
import ProseLinter.Rule.Error

/-!
# Origins and errors of loading

A loaded rule remembers where it came from. Loading can fail because nothing was found, because
what was found is not valid, or because another rule already has the name.

* `LintError.message` is the text of an error.
-/

namespace ProseLinter

/-- Where a rule came from. -/
inductive Origin where
  /-- The catalog, under the name of a package. -/
  | bundled (package : String)
  /-- A module file. -/
  | file (path : Path)
  /-- A plugin, from its file. -/
  | plugin (name : String) (path : Path)
  /-- An object handed in by the caller. -/
  | object
deriving DecidableEq, Repr

namespace Origin

/-- The text that names an origin. -/
def describe : Origin → String
  | bundled package => "bundled rule '" ++ package ++ "'"
  | file path => "'" ++ path.text ++ "'"
  | plugin name path => "plugin '" ++ name ++ "' (" ++ path.text ++ ")"
  | object => "a rule instance"

/-- Whether two origins are the same, paths being compared by their components. -/
def same : Origin → Origin → Bool
  | bundled p, bundled q => p == q
  | file p, file q => p.same q
  | plugin n p, plugin m q => n == m && p.same q
  | object, object => true
  | _, _ => false

/-- An origin is the same as itself. -/
@[simp]
theorem same_refl (o : Origin) : o.same o = true := by
  cases o <;> simp [same]

theorem same_comm (o o' : Origin) : o.same o' = o'.same o := by
  cases o <;> cases o' <;> simp only [same, Path.same_comm, BEq.comm]

theorem same_trans {o o' o'' : Origin} (h : o.same o' = true) (h' : o'.same o'' = true) :
    o.same o'' = true := by
  cases o <;> cases o' <;> simp only [same, Bool.false_eq_true] at h <;>
    cases o'' <;> simp only [same, Bool.false_eq_true] at h'
  · simp only [same, beq_iff_eq] at h h' ⊢
    exact h.trans h'
  · exact Path.same_trans h h'
  · simp only [Bool.and_eq_true, beq_iff_eq] at h h'
    simp only [same, Bool.and_eq_true, beq_iff_eq]
    exact ⟨h.1.trans h'.1, Path.same_trans h.2 h'.2⟩
  · rfl

/-- Whether two origins are the same depends on what they are the same as. -/
theorem same_congr {o o' p p' : Origin} (h : o.same o' = true) (h' : p.same p' = true) :
    o.same p = o'.same p' := by
  rw [Bool.eq_iff_iff]
  constructor
  · intro hop
    exact same_trans (same_trans (same_comm o o' ▸ h) hop) h'
  · intro hop
    exact same_trans (same_trans h hop) (same_comm p p' ▸ h')

end Origin

/-- Why a step of linting failed. -/
inductive LintError where
  | config (error : ConfigError)
  | ruleNotFound (specifier : String) (searched : List Path)
  | pluginNotFound (specifier : String) (searched : List Path)
  | formatterNotFound (specifier : String)
  | ruleConflict (name : String) (existing incoming : Origin)
  | invalidModule (error : RuleError)
  | file (path : Path) (fault : FileFault)

namespace LintError

/-- The list of the files that were looked for, if there are any. -/
def searchedText (searched : List Path) : String :=
  if searched.isEmpty then ""
  else " (searched: " ++ String.intercalate ", " (searched.map (·.text)) ++ ")"

/-- The text of an error. -/
def message : LintError → String
  | config error => "Configuration error: " ++ error.message
  | ruleNotFound specifier searched => "Rule not found: " ++ specifier ++ searchedText searched
  | pluginNotFound specifier searched =>
    "Plugin not found: " ++ specifier ++ searchedText searched
  | formatterNotFound specifier => "Formatter not found: " ++ specifier
  | ruleConflict name existing incoming =>
    "Rule '" ++ name ++ "' is already registered from " ++ existing.describe
      ++ "; refusing to replace it with " ++ incoming.describe
  | invalidModule error => error.message
  | file path fault => "I/O error on '" ++ path.text ++ "': " ++ fault.message

end LintError

end ProseLinter
