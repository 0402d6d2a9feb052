import Mathlib.Data.List.TakeWhile
import ProseLinter.Document.Parser
import ProseLinter.Proofs.Config.FirstOccurrences
import ProseLinter.Proofs.Config.Naming
import ProseLinter.Proofs.Text.Slice

/-!
# The normal form of a configuration

What an engine holds is the normal form of a configuration as written: its lists are without
repetitions, extensions are in small letters without dots, and options stand under the names of
rules. Nothing that was said gets lost on the way, and a normal form that is written down is its own
normal form.

* `ConfigOptions.normalizeExtension_normalizeExtension` : an extension in the normal form stays as
  it is.
* `ConfigOptions.mem_extensions_normalize` : what is left of a list of extensions.
* `ConfigOptions.option?_normalize` : where an option is found.
* `Config.IsNormalFormOf` : what a normal form keeps of a configuration as written.
* `ConfigOptions.normalize_projects` : a configuration is brought into its normal form, and a normal
  form is not changed any more.
-/

namespace ProseLinter

/-! ### Extensions -/

namespace Parsers

variable {extension : String}

/-- An extension as it is compared: without leading dots, and in small letters. -/
def bare (extension : String) : List Char :=
  (extension.toList.dropWhile (· == '.')).map Char.toLower

/-- Nothing is left of an extension that has dots only. -/
theorem bare_eq_nil_iff : bare extension = [] ↔ ∀ c ∈ extension.toList, c = '.' := by
  rw [bare, List.map_eq_nil_iff, List.dropWhile_eq_nil_iff]
  simp

theorem map_toLower_bare (extension : String) :
    (bare extension).map Char.toLower = bare extension := by
  rw [bare, List.map_map]
  exact List.map_congr_left fun c _ => Text.toLower_toLower c

theorem toList_normalizeExtension (extension : String) :
    (ConfigOptions.normalizeExtension extension).toList = bare extension := by
  rw [ConfigOptions.normalizeExtension]
  exact String.toList_map.trans (congrArg _ String.toList_ofList)

/-- The normal form of an extension is compared as the extension is. -/
theorem bare_normalizeExtension (extension : String) :
    bare (ConfigOptions.normalizeExtension extension) = bare extension := by
  -- The normal form has no leading dots, for no other character becomes a dot in lower case.
  have hkept : (bare extension).dropWhile (· == '.') = bare extension := by
    rw [bare]
    cases hrest : extension.toList.dropWhile (· == '.') with
    | nil => rfl
    | cons c rest =>
      have hc : c ≠ '.' := by
        have hhead := List.head?_dropWhile_not (· == '.') extension.toList
        rw [hrest] at hhead
        simpa using hhead
      apply List.dropWhile_cons_of_neg
      rw [beq_iff_eq, Text.toLower_eq_iff (by decide)]
      exact hc
  have hunfold : bare (ConfigOptions.normalizeExtension extension) =
      ((ConfigOptions.normalizeExtension extension).toList.dropWhile (· == '.')).map Char.toLower :=
    rfl
  rw [hunfold, toList_normalizeExtension, hkept, map_toLower_bare]

end Parsers

namespace ConfigOptions

variable {o : ConfigOptions}

/-- An extension in the normal form stays as it is. -/
theorem normalizeExtension_normalizeExtension (extension : String) :
    normalizeExtension (normalizeExtension extension) = normalizeExtension extension := by
  apply String.toList_inj.1
  rw [Parsers.toList_normalizeExtension, Parsers.bare_normalizeExtension,
    Parsers.toList_normalizeExtension]

theorem normalizeExtension_eq_empty_iff {extension : String} :
    normalizeExtension extension = "" ↔ Parsers.bare extension = [] := by
  rw [← Parsers.toList_normalizeExtension, String.toList_eq_nil_iff]

/-- The normal form has the listed extensions of which something is left. -/
theorem mem_extensions_normalize {extension : String} :
    extension ∈ o.normalize.extensions ↔
      ∃ x ∈ o.extensions.getD [], Parsers.bare x ≠ [] ∧ normalizeExtension x = extension := by
  -- Repetitions are left out last, and this leaves the members as they are.
  rw [normalize, mem_firstOccurrences, List.mem_filter, List.mem_map, bne_iff_ne]
  constructor
  · rintro ⟨⟨x, hx, rfl⟩, hne⟩
    exact ⟨x, hx, mt normalizeExtension_eq_empty_iff.2 hne, rfl⟩
  · rintro ⟨x, hx, hbare, rfl⟩
    exact ⟨⟨x, hx, rfl⟩, mt normalizeExtension_eq_empty_iff.1 hbare⟩

/-- The extensions that the normal form lists are those that have a character other than a dot, each
as it is compared. -/
theorem filter_map_normalizeExtension (listed : List String) :
    (listed.map normalizeExtension).filter (· != "") =
      (listed.filter fun x => x.toList.any (· != '.')).map fun x => .ofList (Parsers.bare x) := by
  have hform : normalizeExtension = fun x => String.ofList (Parsers.bare x) := by
    funext x
    rw [← Parsers.toList_normalizeExtension, String.ofList_toList]
  rw [List.filter_map, ← hform]
  congr 2
  funext x
  rw [Bool.eq_iff_iff, Function.comp_apply, bne_iff_ne, Ne, normalizeExtension_eq_empty_iff,
    Parsers.bare_eq_nil_iff]
  simp

/-- No extension of a normal form changes or disappears when it is normalized again. -/
theorem filter_map_extensions_normalize (o : ConfigOptions) :
    (o.normalize.extensions.map normalizeExtension).filter (· != "") =
      o.normalize.extensions := by
  have hmem : ∀ x ∈ o.normalize.extensions, normalizeExtension x = x ∧ x ≠ "" := by
    intro x hx
    obtain ⟨y, -, hbare, rfl⟩ := mem_extensions_normalize.1 hx
    exact ⟨normalizeExtension_normalizeExtension y, mt normalizeExtension_eq_empty_iff.1 hbare⟩
  rw [List.map_congr_left fun x hx => (hmem x hx).1, List.map_id', List.filter_eq_self]
  intro x hx
  exact bne_iff_ne.2 (hmem x hx).2

end ConfigOptions

/-! ### Options -/

/-- The value of a key is found if all values that a list has for the key are the same. -/
theorem lookup_eq_some_of_mem {α β : Type} [BEq α] [LawfulBEq α] {a : α} {b : β}
    {items : List (α × β)} (hmem : (a, b) ∈ items) (h : ∀ p ∈ items, p.1 = a → p.2 = b) :
    items.lookup a = some b := by
  induction items with
  | nil => cases hmem
  | cons p items ih =>
    obtain ⟨a', b'⟩ := p
    by_cases ha : a = a'
    · -- The first value for the key is the one that is found.
      subst ha
      have hb : b' = b := h _ List.mem_cons_self rfl
      simp [hb]
    · have hrest : (a, b) ∈ items := by
        rcases List.mem_cons.1 hmem with heq | hrest
        · cases heq
          exact absurd rfl ha
        · exact hrest
      rw [List.lookup_cons, beq_false_of_ne ha]
      exact ih hrest fun p hp => h p (List.mem_cons_of_mem _ hp)

/-- An option is found under the name that its key stands for, if the keys that stand for it all
have the same one. -/
theorem ConfigOptions.option?_normalize {o : ConfigOptions} {key name : String}
    {option : RuleOption} (hmem : (key, option) ∈ o.options.getD [])
    (hkey : Naming.canonicalKey key = name)
    (h : ∀ p ∈ o.options.getD [], Naming.canonicalKey p.1 = name → p.2 = option) :
    o.normalize.option? name = some option := by
  refine lookup_eq_some_of_mem ?_ ?_
  · rw [← hkey]
    exact List.mem_map_of_mem hmem
  · intro p hp hname
    obtain ⟨q, hq, rfl⟩ := List.mem_map.1 hp
    exact h q hq hname

/-- With keys that stand for different names, the option under a name is the one that was written
under a key for it. -/
theorem ConfigOptions.option?_normalize_eq_some_iff {o : ConfigOptions}
    (hkeys : ((o.options.getD []).map fun p => Naming.canonicalKey p.1).Nodup) {name : String}
    {option : RuleOption} :
    o.normalize.option? name = some option ↔
      ∃ key, (key, option) ∈ o.options.getD [] ∧ Naming.canonicalKey key = name := by
  constructor
  · intro hfound
    obtain ⟨before, after, hoptions, -⟩ := List.lookup_eq_some_iff.1 hfound
    have hmem : (name, option) ∈ o.normalize.options := by simp [hoptions]
    obtain ⟨⟨key, option'⟩, hwritten, heq⟩ := List.mem_map.1 hmem
    obtain ⟨rfl, rfl⟩ := Prod.ext_iff.1 heq
    exact ⟨key, hwritten, rfl⟩
  · rintro ⟨key, hwritten, hkey⟩
    refine option?_normalize hwritten hkey fun p hp hname => ?_
    -- Two keys for one name are one key, and so their options are one option.
    have hsame := List.inj_on_of_nodup_map hkeys hp hwritten (hname.trans hkey.symm)
    exact congrArg Prod.snd hsame

/-! ### The normal form -/

/-- Paths with the same components are of one kind. -/
theorem Path.equivalence_same : Equivalence fun p q : Path => p.same q = true where
  refl := Path.same_refl
  symm h := by rwa [Path.same_comm]
  trans := Path.same_trans

namespace Config

/-- A configuration as an engine holds it, written down. -/
def toOptions (c : Config) : ConfigOptions where
  rules := some c.rules
  rulePaths := some c.rulePaths
  plugins := some c.plugins
  rulesBaseDirectory := c.rulesBaseDirectory
  formatterName := c.formatterName
  options := some c.options
  extensions := some c.extensions

open ConfigOptions

/-- What a configuration as an engine holds it has of one as written. -/
structure IsNormalFormOf (c : Config) (o : ConfigOptions) : Prop where
  rules : AreFirsts (· == ·) (o.rules.getD []) c.rules
  /-- Paths with the same components are kept once, as the first of them is written. -/
  rulePaths : AreFirsts Path.same (o.rulePaths.getD []) c.rulePaths
  plugins : AreFirsts (· == ·) (o.plugins.getD []) c.plugins
  /-- Extensions are kept as they are compared, unless they have dots only. -/
  extensions : AreFirsts (· == ·)
    (((o.extensions.getD []).filter fun x => x.toList.any (· != '.')).map fun x =>
      .ofList (Parsers.bare x)) c.extensions
  /-- The option under a name is the one that was written under a key for it. -/
  option?_eq_some_iff : ∀ name option, c.option? name = some option ↔
    ∃ key, (key, option) ∈ o.options.getD [] ∧ Naming.canonicalKey key = name
  rulesBaseDirectory_eq : c.rulesBaseDirectory = o.rulesBaseDirectory
  formatterName_eq_some_iff : ∀ name,
    c.formatterName = some name ↔ o.formatterName = some name ∧ name ≠ ""

end Config

namespace ConfigOptions

variable {o : ConfigOptions}

/-- The normal form keeps everything that was written. -/
theorem isNormalFormOf_normalize
    (hkeys : ((o.options.getD []).map fun p => Naming.canonicalKey p.1).Nodup) :
    o.normalize.IsNormalFormOf o where
  rules := areFirsts_firstOccurrences equivalence_beq _
  rulePaths := areFirsts_firstOccurrences Path.equivalence_same _
  plugins := areFirsts_firstOccurrences equivalence_beq _
  extensions := by
    rw [← filter_map_normalizeExtension]
    exact areFirsts_firstOccurrences equivalence_beq _
  option?_eq_some_iff _ _ := option?_normalize_eq_some_iff hkeys
  rulesBaseDirectory_eq := rfl
  formatterName_eq_some_iff name := by
    rw [normalize, Option.filter_eq_some_iff, bne_iff_ne]

/-- A normal form that is written down is its own normal form. -/
theorem normalize_toOptions_normalize (o : ConfigOptions) :
    o.normalize.toOptions.normalize = o.normalize := by
  have hrules : firstOccurrences (· == ·) o.normalize.rules = o.normalize.rules :=
    firstOccurrences_firstOccurrences equivalence_beq _
  have hrulePaths : firstOccurrences Path.same o.normalize.rulePaths = o.normalize.rulePaths :=
    firstOccurrences_firstOccurrences Path.equivalence_same _
  have hplugins : firstOccurrences (· == ·) o.normalize.plugins = o.normalize.plugins :=
    firstOccurrences_firstOccurrences equivalence_beq _
  have hformatterName : o.normalize.formatterName.filter (· != "") = o.normalize.formatterName := by
    simp only [normalize, Option.filter_filter, Bool.and_self]
  have hoptions : (o.normalize.options.map fun p => (Naming.canonicalKey p.1, p.2)) =
      o.normalize.options := by
    simp only [normalize, List.map_map]
    refine List.map_congr_left fun p _ => ?_
    exact Prod.ext (Naming.canonicalKey_canonicalKey p.1) rfl
  -- No extension changes or disappears, so that only repetitions could be left out.
  have hextensions : firstOccurrences (· == ·)
      ((o.normalize.extensions.map normalizeExtension).filter (· != "")) =
        o.normalize.extensions := by
    rw [filter_map_extensions_normalize]
    exact firstOccurrences_firstOccurrences equivalence_beq _
  calc o.normalize.toOptions.normalize
      = { rules := firstOccurrences (· == ·) o.normalize.rules
          rulePaths := firstOccurrences Path.same o.normalize.rulePaths
          plugins := firstOccurrences (· == ·) o.normalize.plugins
          rulesBaseDirectory := o.normalize.rulesBaseDirectory
          formatterName := o.normalize.formatterName.filter (· != "")
          options := o.normalize.options.map fun p => (Naming.canonicalKey p.1, p.2)
          extensions := firstOccurrences (· == ·)
            ((o.normalize.extensions.map normalizeExtension).filter (· != "")) } := rfl
    _ = o.normalize := by
      rw [hrules, hrulePaths, hplugins, hformatterName, hoptions, hextensions]

/-- The normal form of a configuration whose options are for different rules keeps the first of each
kind of entry, in order, and every option under the name of its rule. Written down, it is its own
normal form. -/
theorem normalize_projects
    (hkeys : ((o.options.getD []).map fun p => Naming.canonicalKey p.1).Nodup) :
    o.normalize.IsNormalFormOf o ∧ o.normalize.toOptions.normalize = o.normalize :=
  ⟨isNormalFormOf_normalize hkeys, normalize_toOptions_normalize o⟩

/-- A configuration with prefixes, slashes, dots and repetitions of all kinds. -/
def untidyOptions : ConfigOptions where
  rules := some ["kotolint-rule-a", "b", "kotolint-rule-a"]
  rulePaths := some [⟨"x//y/"⟩, ⟨"./x"⟩, ⟨"x/./y"⟩, ⟨"x"⟩]
  plugins := some ["p", "p"]
  formatterName := some ""
  options := some
    [("kotolint-rule-kotolint-rule-a", .enabled false),
     ("kotolint-plugin-p/kotolint-rule-a/b", .severity "info")]
  extensions := some ["..", ".MD", "md", "", "Txt"]

/-- Its normal form is brought about as it should be. -/
theorem untidyOptions_normalize_projects :
    ((untidyOptions.options.getD []).map fun p => Naming.canonicalKey p.1).Nodup ∧
      (untidyOptions.normalize.IsNormalFormOf untidyOptions ∧
        untidyOptions.normalize.toOptions.normalize = untidyOptions.normalize) ∧
      untidyOptions.normalize.rules = ["kotolint-rule-a", "b"] ∧
      untidyOptions.normalize.rulePaths = [⟨"x//y/"⟩, ⟨"./x"⟩, ⟨"x"⟩] ∧
      untidyOptions.normalize.options.map (·.1) = ["a", "p/kotolint-rule-a/b"] ∧
      untidyOptions.normalize.extensions = ["md", "txt"] := by
  have hkeys : ((untidyOptions.options.getD []).map fun p => Naming.canonicalKey p.1).Nodup := by
    decide +kernel
  have hextensions : untidyOptions.normalize.extensions = ["md", "txt"] := by
    have hlisted : untidyOptions.normalize.extensions = firstOccurrences (· == ·)
        ((["..", ".MD", "md", "", "Txt"].map normalizeExtension).filter (· != "")) := rfl
    rw [hlisted, filter_map_normalizeExtension]
    decide
  exact ⟨hkeys, normalize_projects hkeys, by decide +kernel, by decide +kernel, by decide +kernel,
    hextensions⟩

end ConfigOptions

end ProseLinter
