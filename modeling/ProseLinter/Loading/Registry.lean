import Std.Data.HashMap.Lemmas
import ProseLinter.Loading.Error
import ProseLinter.Rule.Basic

/-!
# The table of loaded rules

A registry holds the entries of rules under their names, and beside them the list of these names in
the order in which they were registered. A name stays bound to its first rule: registering the same
object or a rule of the same origin again changes nothing, and any other rule under that name is
refused.

* `Registry.enter_eq_ok_iff` : a registration is accepted for a free name, or else changes nothing.
* `get?_configure` : setting options changes the options of one rule and nothing else.
-/

namespace ProseLinter

/-- A registered rule. -/
structure RuleEntry where
  name : String
  rule : Rule
  origin : Origin
  option : RuleOption

/-- Whether an entry stands for another: it holds the same object, or a rule of the same origin. -/
def RuleEntry.standsFor (e x : RuleEntry) : Bool :=
  e.rule.sameObject x.rule || e.origin.same x.origin

/-- The registered rules: their names in order, and the entry of each name. -/
structure Registry where
  names : List String
  table : Std.HashMap String RuleEntry

namespace Registry

/-- The registry without rules. -/
def empty : Registry :=
  ⟨[], ∅⟩

/-- The entry of a name. -/
def get? (r : Registry) (name : String) : Option RuleEntry :=
  r.table[name]?

/-- Whether a name is registered. -/
def contains (r : Registry) (name : String) : Bool :=
  r.table.contains name

/-- The entries in the order of the names; a name without an entry is left out. -/
def entries (r : Registry) : List RuleEntry :=
  r.names.filterMap r.get?

/-- The number of rules. -/
def size (r : Registry) : Nat :=
  r.names.length

/-- The registry with an entry behind all others. -/
def append (r : Registry) (x : RuleEntry) : Registry :=
  ⟨r.names ++ [x.name], r.table.insert x.name x⟩

/-- Registers an entry, and says whether it was added. -/
def enter (r : Registry) (x : RuleEntry) : Except LintError (Bool × Registry) :=
  match r.get? x.name with
  | some e =>
    if e.standsFor x then .ok (false, r) else .error (.ruleConflict x.name e.origin x.origin)
  | none => .ok (true, r.append x)

/-- Registers a rule under a name, and says whether it was added. -/
def register (r : Registry) (name : String) (rule : Rule) (origin : Origin)
    (option : RuleOption) : Except LintError (Bool × Registry) :=
  r.enter ⟨name, rule, origin, option⟩

/-- Registers entries one after the other, up to the first that is refused; what was registered
before it stays. -/
def enterAll (r : Registry) : List RuleEntry → Except LintError Unit × Registry
  | [] => (.ok (), r)
  | x :: rest =>
    match r.enter x with
    | .ok (_, r) => r.enterAll rest
    | .error e => (.error e, r)

/-- Sets the options of a rule, and says whether the rule is registered. -/
def configure (r : Registry) (name : String) (option : RuleOption) : Bool × Registry :=
  match r.get? name with
  | some e => (true, { r with table := r.table.insert name { e with option } })
  | none => (false, r)

/-! ### The entry of a name -/

@[simp]
theorem get?_empty (name : String) : empty.get? name = none := by
  simp [get?, empty]

/-- Appending an entry binds its name and no other. -/
@[simp]
theorem get?_append (r : Registry) (x : RuleEntry) (name : String) :
    (r.append x).get? name = if x.name = name then some x else r.get? name := by
  simp [get?, append, Std.HashMap.getElem?_insert]

/-- Appending an entry under a free name keeps all other entries. -/
theorem get?_append_of_get?_eq_some {r : Registry} {x e : RuleEntry} {name : String}
    (hx : r.get? x.name = none) (he : r.get? name = some e) :
    (r.append x).get? name = some e := by
  have hn : x.name ≠ name := by
    rintro rfl
    rw [hx] at he
    cases he
  rw [get?_append, if_neg hn, he]

@[simp]
theorem names_append (r : Registry) (x : RuleEntry) : (r.append x).names = r.names ++ [x.name] :=
  rfl

/-- A name is registered when it has an entry. -/
theorem contains_eq_isSome_get? (r : Registry) (name : String) :
    r.contains name = (r.get? name).isSome := by
  simp [contains, get?]

/-! ### Registering -/

/-- A free name is given to the entry. -/
theorem enter_of_get?_eq_none {r : Registry} {x : RuleEntry} (h : r.get? x.name = none) :
    r.enter x = .ok (true, r.append x) := by
  simp only [enter, h]

/-- Nothing changes when the name is bound to an entry that stands for the new one. -/
theorem enter_of_standsFor {r : Registry} {x e : RuleEntry} (h : r.get? x.name = some e)
    (hx : e.standsFor x = true) : r.enter x = .ok (false, r) := by
  simp only [enter, h, hx, ↓reduceIte]

/-- An entry is refused when the name is bound to one that does not stand for it. -/
theorem enter_of_not_standsFor {r : Registry} {x e : RuleEntry} (h : r.get? x.name = some e)
    (hx : e.standsFor x = false) :
    r.enter x = .error (.ruleConflict x.name e.origin x.origin) := by
  simp only [enter, h, hx, Bool.false_eq_true, ↓reduceIte]

/-- An entry is accepted exactly when its name is free, and then it is appended, or when its name
is bound to an entry that stands for it, and then nothing changes. -/
theorem enter_eq_ok_iff {r r' : Registry} {x : RuleEntry} {added : Bool} :
    r.enter x = .ok (added, r') ↔
      (r.get? x.name = none ∧ added = true ∧ r' = r.append x) ∨
        (∃ e, r.get? x.name = some e ∧ e.standsFor x = true) ∧ added = false ∧ r' = r := by
  constructor
  · intro hr
    cases h : r.get? x.name with
    | none =>
      rw [enter_of_get?_eq_none h] at hr
      cases hr
      exact .inl ⟨rfl, rfl, rfl⟩
    | some e =>
      cases hx : e.standsFor x with
      | true =>
        rw [enter_of_standsFor h hx] at hr
        cases hr
        exact .inr ⟨⟨e, rfl, hx⟩, rfl, rfl⟩
      | false =>
        rw [enter_of_not_standsFor h hx] at hr
        cases hr
  · rintro (⟨h, rfl, rfl⟩ | ⟨⟨e, h, hx⟩, rfl, rfl⟩)
    · exact enter_of_get?_eq_none h
    · exact enter_of_standsFor h hx

/-- An entry is refused exactly when its name is bound to an entry that does not stand for it. -/
theorem enter_eq_error_iff {r : Registry} {x : RuleEntry} {err : LintError} :
    r.enter x = .error err ↔
      ∃ e, r.get? x.name = some e ∧ e.standsFor x = false ∧
        err = .ruleConflict x.name e.origin x.origin := by
  constructor
  · intro hr
    cases h : r.get? x.name with
    | none =>
      rw [enter_of_get?_eq_none h] at hr
      cases hr
    | some e =>
      cases hx : e.standsFor x with
      | true =>
        rw [enter_of_standsFor h hx] at hr
        cases hr
      | false =>
        rw [enter_of_not_standsFor h hx] at hr
        cases hr
        exact ⟨e, rfl, hx, rfl⟩
  · rintro ⟨e, h, hx, rfl⟩
    exact enter_of_not_standsFor h hx

/-! ### Setting options -/

/-- Setting options keeps the names and their order. -/
@[simp]
theorem names_configure (r : Registry) (name : String) (option : RuleOption) :
    (r.configure name option).2.names = r.names := by
  unfold configure
  split <;> rfl

/-- Setting the options of a name that is not registered changes nothing. -/
theorem configure_of_get?_eq_none {r : Registry} {name : String} (h : r.get? name = none)
    (option : RuleOption) : r.configure name option = (false, r) := by
  simp only [configure, h]

/-- Setting the options of a registered rule puts its entry with the new options in the table. -/
theorem configure_of_get?_eq_some {r : Registry} {name : String} {e : RuleEntry}
    (h : r.get? name = some e) (option : RuleOption) :
    r.configure name option =
      (true, { r with table := r.table.insert name { e with option } }) := by
  simp only [configure, h]

/-- Setting options replaces the options of the named rule and nothing else. -/
theorem get?_configure (r : Registry) (name other : String) (option : RuleOption) :
    (r.configure name option).2.get? other =
      if name = other then (r.get? other).map fun e => { e with option } else r.get? other := by
  cases h : r.get? name with
  | none =>
    rw [configure_of_get?_eq_none h]
    split
    · next ho => rw [← ho, h, Option.map_none]
    · rfl
  | some e =>
    rw [configure_of_get?_eq_some h]
    simp only [get?, Std.HashMap.getElem?_insert, beq_iff_eq]
    split
    · next ho => rw [← ho, ← get?, h, Option.map_some]
    · rfl

end Registry

end ProseLinter
