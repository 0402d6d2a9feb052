import ProseLinter.Rule.NoDoubledWord
import ProseLinter.Rule.NoTodo
import ProseLinter.Rule.SentenceLength

/-!
# Catalogs

A catalog holds rules under the names of their packages.

* `Catalog.bundled` is the catalog of the rules of this library.
-/

namespace ProseLinter

/-- Rules by package name. -/
structure Catalog where
  rules : List (String × Rule)

namespace Catalog

/-- The catalog without rules. -/
def empty : Catalog :=
  ⟨[]⟩

/-- The rule of a package. -/
def get? (c : Catalog) (package : String) : Option Rule :=
  c.rules.lookup package

/-- Whether a package has a rule. -/
def contains (c : Catalog) (package : String) : Bool :=
  (c.get? package).isSome

/-- The catalog with a rule for a package, in the place of the one before. -/
def insert (c : Catalog) (package : String) (rule : Rule) : Catalog :=
  ⟨(package, rule) :: c.rules.filter (·.1 != package)⟩

/-- The package names in increasing order. -/
def packages (c : Catalog) : List String :=
  (c.rules.map (·.1)).mergeSort (· ≤ ·)

/-- The number of packages. -/
def size (c : Catalog) : Nat :=
  c.rules.length

/-- The rules that belong to the library. -/
def bundled : Catalog :=
  ⟨[("kotolint-rule-no-todo", NoTodo.rule),
    ("kotolint-rule-sentence-length", SentenceLength.rule),
    ("kotolint-rule-no-doubled-word", NoDoubledWord.rule)]⟩

theorem lookup_filter_ne {α : Type} {rules : List (String × α)} {package p : String}
    (h : p ≠ package) : (rules.filter (·.1 != package)).lookup p = rules.lookup p := by
  induction rules with
  | nil => rfl
  | cons r rs ih =>
    obtain ⟨n, r⟩ := r
    by_cases hn : n = package
    · have hp : (p == n) = false := by simpa [hn] using h
      simp [hn, ih, List.lookup_cons, hn ▸ hp]
    · simp [hn, List.lookup_cons, ih]

end Catalog

end ProseLinter
