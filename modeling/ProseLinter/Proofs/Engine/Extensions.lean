import ProseLinter.Proofs.Config.NormalForm
import ProseLinter.Proofs.Engine.Alike
import ProseLinter.Proofs.Engine.Severity
import ProseLinter.Proofs.Engine.TextAsFile

/-!
# Extensions that are linted

A configuration may list the extensions that are to be linted. The list is brought into a normal
form, in which an extension without a character other than its dots is left out, and an empty list
allows everything. So the list restricts what is linted unless it has such extensions only.

* `Parsers.forExtension?_restrict_eq_some_iff` : the parser for an extension, with a list.
* `ConfigOptions.extensions_normalize_eq_nil_iff` : when nothing is left of the list in the normal
  form.
* `Fleet.extensions_restrict_iff` : when a list of extensions restricts what an engine lints.
* `Fleet.dots_restrict_nothing` : a list for which it does not.
-/

namespace ProseLinter

/-! ### Extensions -/

namespace Parsers

variable {extension : String} {p : Parser}

/-- None of the listed extensions has a character other than a dot. -/
def OnlyDots (listed : List String) : Prop :=
  ∀ x ∈ listed, ∀ c ∈ x.toList, c = '.'

/-- An extension that is looked for is taken without its dots. -/
theorem sameExtension_trimDots_iff {other : String} :
    sameExtension other (trimDots extension) = true ↔
      other.toList.map Char.toLower = bare extension := by
  rw [sameExtension_eq, beq_iff_eq, trimDots, String.toList_ofList]
  rfl

/-! ### The parser for an extension -/

/-- A parser handles an extension: it is one of the parser's own up to leading dots and the case of
ASCII letters. -/
def Handles (p : Parser) (extension : String) : Prop :=
  ∃ own ∈ p.extensions, bare own = bare extension

/-- The first of several parsers that handles an extension. -/
def IsFirst (parsers : List Parser) (extension : String) (p : Parser) : Prop :=
  Handles p extension ∧
    ∃ before after, parsers = before ++ p :: after ∧ ∀ other ∈ before, ¬ Handles other extension

/-- The parsers of the library have extensions without dots in small letters. -/
theorem bare_of_mem_extensions (hp : p ∈ default.parsers) {own : String}
    (hown : own ∈ p.extensions) : own.toList.map Char.toLower = bare own ∧ bare own ≠ [] := by
  have hmarkdown : ∀ own ∈ Parser.markdown.extensions,
      own.toList.map Char.toLower = bare own ∧ bare own ≠ [] := by decide
  have hplainText : ∀ own ∈ Parser.plainText.extensions,
      own.toList.map Char.toLower = bare own ∧ bare own ≠ [] := by decide
  rcases List.mem_cons.1 hp with rfl | hp
  · exact hmarkdown own hown
  · obtain rfl := List.mem_singleton.1 hp
    exact hplainText own hown

theorem any_sameExtension_iff (hp : p ∈ default.parsers) :
    p.extensions.any (sameExtension · (trimDots extension)) = true ↔ Handles p extension := by
  rw [List.any_eq_true, Handles]
  refine exists_congr fun own => and_congr_right fun hown => ?_
  rw [sameExtension_trimDots_iff, (bare_of_mem_extensions hp hown).1]

/-- Without a list of extensions an extension has the first parser that handles it. -/
theorem forExtension?_default_eq_some_iff :
    default.forExtension? extension = some p ↔ IsFirst default.parsers extension p := by
  -- Both sides split the parsers at the first that fits, and differ in how they say that one does.
  have hfind : default.forExtension? extension =
      default.parsers.find? fun p => p.extensions.any (sameExtension · (trimDots extension)) := rfl
  rw [hfind, List.find?_eq_some_iff_append, IsFirst]
  constructor
  · rintro ⟨hhandles, before, after, hparsers, hbefore⟩
    have hmem : ∀ q ∈ before ++ p :: after, q ∈ default.parsers := fun q hq => hparsers ▸ hq
    refine ⟨?_, before, after, hparsers, ?_⟩
    · exact (any_sameExtension_iff (hmem p (by simp))).1 hhandles
    · intro other hother hhandles'
      have hnot := hbefore other hother
      rw [(any_sameExtension_iff (hmem other (by simp [hother]))).2 hhandles'] at hnot
      cases hnot
  · rintro ⟨hhandles, before, after, hparsers, hbefore⟩
    have hmem : ∀ q ∈ before ++ p :: after, q ∈ default.parsers := fun q hq => hparsers ▸ hq
    refine ⟨?_, before, after, hparsers, ?_⟩
    · exact (any_sameExtension_iff (hmem p (by simp))).2 hhandles
    · intro other hother
      rw [Bool.not_eq_true', Bool.eq_false_iff, Ne,
        any_sameExtension_iff (hmem other (by simp [hother]))]
      exact hbefore other hother

/-- The parser for plain text is the first that handles its extension. -/
theorem isFirst_plainText (h : bare extension = "txt".toList) :
    IsFirst default.parsers extension .plainText := by
  have hmarkdown : ∀ own ∈ Parser.markdown.extensions, bare own ≠ "txt".toList := by decide
  refine ⟨⟨"txt", List.mem_cons_self, h ▸ by decide⟩, [.markdown], [], rfl, ?_⟩
  rintro other hother ⟨own, hown, hbare⟩
  obtain rfl := List.mem_singleton.1 hother
  exact hmarkdown own hown (hbare.trans h)

/-- An extension is compared with one that is allowed as with any other. -/
theorem sameExtension_normalizeExtension_iff {listed : String} :
    sameExtension (ConfigOptions.normalizeExtension listed) (trimDots extension) = true ↔
      bare listed = bare extension := by
  rw [sameExtension_trimDots_iff, toList_normalizeExtension, map_toLower_bare]

/-- With a list of extensions, those in the list have the parser that they have without it, and the
others have none. An empty list changes nothing. -/
theorem forExtension?_restrict_eq_some_iff {listed : List String} :
    (default.restrict listed).forExtension? extension = some p ↔
      (listed = [] ∨ ∃ x ∈ listed, bare x = bare extension) ∧
        default.forExtension? extension = some p := by
  cases listed with
  | nil =>
    have hdefault : default.restrict [] = default := rfl
    rw [hdefault]
    simp
  | cons x listed =>
    -- The list is brought into the normal form once more.
    have hrestrict : (default.restrict (x :: listed)).forExtension? extension =
        if ((x :: listed).map ConfigOptions.normalizeExtension).any
            (sameExtension · (trimDots extension))
        then default.forExtension? extension else none := rfl
    have hallowed : ((x :: listed).map ConfigOptions.normalizeExtension).any
          (sameExtension · (trimDots extension)) = true ↔
        ∃ y ∈ x :: listed, bare y = bare extension := by
      rw [List.any_map, List.any_eq_true]
      exact exists_congr fun y => and_congr_right fun _ => sameExtension_normalizeExtension_iff
    rw [hrestrict, Option.ite_none_right_eq_some, hallowed]
    simp only [reduceCtorEq, false_or]

end Parsers

/-! ### Lists of extensions in the normal form -/

namespace ConfigOptions

open Parsers

variable {o : ConfigOptions} {listed : List String}

/-- Nothing is left of a list of extensions that have dots only. -/
theorem extensions_normalize_eq_nil_iff (h : o.extensions = some listed) :
    o.normalize.extensions = [] ↔ OnlyDots listed := by
  simp only [List.eq_nil_iff_forall_not_mem, mem_extensions_normalize, h, Option.getD_some]
  constructor
  · intro hnone x hx
    by_contra hdots
    exact hnone (normalizeExtension x) ⟨x, hx, mt bare_eq_nil_iff.1 hdots, rfl⟩
  · rintro hdots c ⟨x, hx, hbare, -⟩
    exact hbare (bare_eq_nil_iff.2 (hdots x hx))

/-- The normal form lists an extension that a parser handles exactly when the list does. -/
theorem exists_mem_extensions_normalize_iff (h : o.extensions = some listed) {extension : String}
    {p : Parser} (hp : default.forExtension? extension = some p) :
    (∃ c ∈ o.normalize.extensions, bare c = bare extension) ↔
      ∃ x ∈ listed, bare x = bare extension := by
  simp only [mem_extensions_normalize, h, Option.getD_some]
  constructor
  · rintro ⟨c, ⟨x, hx, -, rfl⟩, hbare⟩
    exact ⟨x, hx, (bare_normalizeExtension x).symm.trans hbare⟩
  · rintro ⟨x, hx, hbare⟩
    -- No parser handles an extension of which nothing is left.
    obtain ⟨⟨own, hown, hbare'⟩, before, after, hparsers, -⟩ :=
      forExtension?_default_eq_some_iff.1 hp
    have hmem : p ∈ default.parsers := by simp [hparsers]
    have hsome : bare x ≠ [] := by
      rw [hbare, ← hbare']
      exact (bare_of_mem_extensions hmem hown).2
    refine ⟨normalizeExtension x, ⟨x, hx, hsome, rfl⟩, ?_⟩
    rw [bare_normalizeExtension, hbare]

end ConfigOptions

/-! ### What an engine lints -/

namespace Engine

open Executor Parsers

/-- The extension of a path is one of those listed, and the parser is the first that handles it. -/
def Wanted (listed : List String) (path : Path) (p : Parser) : Prop :=
  (∃ x ∈ listed, bare x = bare (path.extension?.getD "")) ∧
    IsFirst default.parsers (path.extension?.getD "") p

/-- An engine lints the paths that are wanted with a parser, each with that parser, and no others:
whatever the files and the rules are, such a path has one result, and any other has none. -/
def LintsExactly (e : Engine) (wanted : Path → Parser → Prop) : Prop :=
  ∀ files rules path,
    (∀ p, wanted path p → ∃ r,
      Executor.executeOnFiles files e.parsers rules [path] = [r] ∧
        IsResult files rules (path, p) r) ∧
    ((∀ p, ¬ wanted path p) → Executor.executeOnFiles files e.parsers rules [path] = [])

variable {e : Engine} {wanted : Path → Parser → Prop}

/-- An engine lints what its parsers make of the extensions of paths. -/
theorem lintsExactly_of_forExtension? (h : ∀ path p,
    e.parsers.forExtension? (path.extension?.getD "") = some p ↔ wanted path p) :
    e.LintsExactly wanted := by
  intro files rules path
  constructor
  · intro p hp
    exact ⟨_, executeOnFiles_of_eq_some ((h path p).2 hp) files rules,
      isResult_resultAt files rules (path, p)⟩
  · intro hnone
    have hparser : e.parsers.forExtension? (path.extension?.getD "") = none := by
      rw [Option.eq_none_iff_forall_ne_some]
      exact fun p hp => hnone p ((h path p).1 hp)
    exact executeOnFiles_of_eq_none hparser files rules

/-- The parser of an engine whose configuration lists extensions. -/
theorem forExtension?_of_ofConfig {files : FileTree} {o : ConfigOptions} {listed : List String}
    {resolver : Resolver} {pluginHome : Option Path} (hlisted : o.extensions = some listed)
    (h : ofConfig files o.normalize resolver pluginHome = .ok e) (extension : String) (p : Parser) :
    e.parsers.forExtension? extension = some p ↔
      (OnlyDots listed ∨ ∃ x ∈ listed, bare x = bare extension) ∧
        IsFirst default.parsers extension p := by
  have hparsers : e.parsers = default.restrict o.normalize.extensions :=
    congrArg (·.parsers) (eq_of_ofConfig h)
  rw [hparsers, forExtension?_restrict_eq_some_iff,
    ConfigOptions.extensions_normalize_eq_nil_iff hlisted, ← forExtension?_default_eq_some_iff]
  refine and_congr_left fun hp => or_congr_right ?_
  exact ConfigOptions.exists_mem_extensions_normalize_iff hlisted hp

/-- A path of a file that holds plain text. -/
def somePath : Path := ⟨"a.txt"⟩

/-- With the parsers for a list of extensions, the list decides what is linted unless it has dots
only. -/
theorem lintsExactly_wanted_iff {listed : List String} (h : ∀ extension p,
    e.parsers.forExtension? extension = some p ↔
      (OnlyDots listed ∨ ∃ x ∈ listed, bare x = bare extension) ∧
        IsFirst default.parsers extension p) :
    e.LintsExactly (Wanted listed) ↔ ¬ OnlyDots listed := by
  constructor
  · -- If there are only dots, then some path is linted, and its extension is not listed.
    intro hlints hdots
    have hnone : ∀ p, ¬ Wanted listed somePath p := by
      rintro p ⟨⟨x, hx, hbare⟩, -⟩
      rw [bare_eq_nil_iff.2 (hdots x hx)] at hbare
      exact absurd hbare (by decide)
    have hempty := (hlints ⟨[], []⟩ [] somePath).2 hnone
    have hsome : e.parsers.forExtension? (somePath.extension?.getD "") = some .plainText :=
      (h _ _).2 ⟨.inl hdots, isFirst_plainText (by decide)⟩
    rw [executeOnFiles_of_eq_some hsome] at hempty
    cases hempty
  · intro hdots
    apply lintsExactly_of_forExtension?
    intro path p
    rw [h, Wanted, or_iff_right hdots]

/-- The files that are linted are linted one by one. -/
theorem Target.results_files (files : FileTree) (s : State) (paths : List Path) :
    Target.results files s (.files paths) = paths.flatMap fun path =>
      Executor.executeOnFiles files s.engine.parsers (activeRules s) [path] := by
  rw [Target.results]
  induction paths with
  | nil => rfl
  | cons path paths ih =>
    rw [← List.singleton_append, executeOnFiles_append, ih, List.singleton_append,
      List.flatMap_cons]

end Engine

namespace Fleet

open Engine Parsers

variable {ι : Type} [DecidableEq ι] {files₀ : FileTree} {o : ConfigOptions} {listed : List String}
  {resolver : Resolver} {pluginHome : Option Path} {w : Fleet ι} {a : ι}

/-- The configuration of an engine lists extensions, and any calls are made. The engine lints
exactly the paths whose extension is listed and has a parser, each with the first parser that
handles it, unless the listed extensions have dots only. In that case it lints every path whose
extension has a parser. What it lints of several paths is what it lints of each, if it can be set
up. -/
theorem extensions_restrict_iff (hlisted : o.extensions = some listed)
    (hengine : ofConfig files₀ o.normalize resolver pluginHome = .ok (w.engines a))
    (files : FileTree) (history : List (ι × Call)) :
    let now := w.after files history
    let ready := now.call files a .setUp
    ((now.engines a).LintsExactly (Wanted listed) ↔ ¬ OnlyDots listed) ∧
    (OnlyDots listed →
      (now.engines a).LintsExactly fun path p =>
        IsFirst default.parsers (path.extension?.getD "") p) ∧
    ∀ paths, (now.call files a (.lint (.files paths))).1 =
      ready.1.map fun _ => .results (paths.flatMap fun path =>
        Executor.executeOnFiles files (now.engines a).parsers (activeRules (ready.2.state a))
          [path]) := by
  intro now ready
  have hparser : ∀ extension p, (now.engines a).parsers.forExtension? extension = some p ↔
      (OnlyDots listed ∨ ∃ x ∈ listed, bare x = bare extension) ∧
        IsFirst default.parsers extension p := by
    -- No call touches the parsers.
    rw [parsers_after files w a history]
    exact forExtension?_of_ofConfig hlisted hengine
  refine ⟨lintsExactly_wanted_iff hparser, ?_, ?_⟩
  · intro hdots
    apply lintsExactly_of_forExtension?
    intro path p
    rw [hparser]
    exact and_iff_right (.inl hdots)
  · intro paths
    have hkept : (ready.2.state a).engine.parsers = (now.engines a).parsers :=
      parsers_after files now a [(a, .setUp)]
    rw [call_lint_fst, Target.results_files, hkept]

/-- A list of two extensions, as someone may write them: of two files that hold plain text, one is
linted and the other is not. -/
theorem extensions_restrict_capitals :
    let o : ConfigOptions := { extensions := some [".TXT", "md"] }
    ∃ e, ofConfig ⟨[], []⟩ o.normalize ⟨.bundled, none⟩ none = .ok e ∧
      o.extensions = some [".TXT", "md"] ∧
      e.LintsExactly (Wanted [".TXT", "md"]) ∧
      Wanted [".TXT", "md"] somePath .plainText ∧
      ∀ p, ¬ Wanted [".TXT", "md"] ⟨"a.text"⟩ p := by
  intro o
  have hengine : ofConfig ⟨[], []⟩ o.normalize ⟨.bundled, none⟩ none =
      .ok { config := o.normalize, resolver := ⟨.bundled, none⟩, pluginHome := none
            formatters := .empty, parsers := default.restrict o.normalize.extensions
            added := [], isSetUp := false } := rfl
  have hlisted : o.extensions = some [".TXT", "md"] := rfl
  obtain ⟨hrestricts, -⟩ := extensions_restrict_iff (w := ⟨fun _ : Unit => _, .empty⟩) (a := ())
    hlisted hengine ⟨[], []⟩ []
  have hsome : ¬ OnlyDots [".TXT", "md"] := by
    intro hdots
    have hletter : 'T' = '.' := hdots ".TXT" List.mem_cons_self 'T' (by decide)
    exact absurd hletter (by decide)
  refine ⟨_, hengine, hlisted, hrestricts.2 hsome,
    ⟨⟨".TXT", List.mem_cons_self, by decide⟩, isFirst_plainText (by decide)⟩, ?_⟩
  rintro p ⟨⟨x, hx, hbare⟩, -⟩
  rcases List.mem_cons.1 hx with rfl | hx
  · exact absurd hbare (by decide)
  · obtain rfl := List.mem_singleton.1 hx
    exact absurd hbare (by decide)

/-- One dot is listed, so no path should be linted, but one is. -/
theorem dots_restrict_nothing :
    let o : ConfigOptions := { rules := some ["no-todo"], extensions := some ["."] }
    let path : Path := ⟨"./a.TXT"⟩
    ofConfig Executor.oneFile o.normalize ⟨.bundled, none⟩ none = .ok todoEngine ∧
      (∀ p, ¬ Wanted ["."] path p) ∧
      ∃ r, (exec (lint Executor.oneFile (.files [path])) ⟨todoEngine, .empty⟩).1 = .ok [r] ∧
        r.filePath = path.text ∧ r.messages.length = 1 := by
  intro o path
  have hengine : ofConfig Executor.oneFile o.normalize ⟨.bundled, none⟩ none = .ok todoEngine := by
    -- The dot is left out, and what remains is the configuration without a list.
    have hextensions : o.normalize.extensions = [] := by
      apply (ConfigOptions.extensions_normalize_eq_nil_iff rfl).2
      simp [OnlyDots]
    have hconfig : o.normalize = todoEngine.config :=
      congrArg (fun extensions => { todoEngine.config with extensions }) hextensions
    rw [hconfig]
    rfl
  have hparser : todoEngine.parsers.forExtension? (path.extension?.getD "") = some .plainText := by
    have hdefault : todoEngine.parsers = default := rfl
    rw [hdefault, forExtension?_default_eq_some_iff]
    exact isFirst_plainText (by decide)
  have hread : Executor.oneFile.read ⟨"./a.TXT"⟩ = .ok "TODO: a word word".toUTF8 := by rfl
  have hsize : "TODO: a word word".toUTF8.size ≤ Executor.sizeLimit := by decide
  have hrules : activeRules ⟨{ todoEngine with isSetUp := true },
      Registry.empty.append todoEntry⟩ = [⟨"no-todo", NoTodo.rule, .null, none⟩] := by
    rw [activeRules, Registry.consistent_empty.entries_append (Registry.get?_empty _)]
    rfl
  have hresults : Target.results Executor.oneFile
      ⟨{ todoEngine with isSetUp := true }, Registry.empty.append todoEntry⟩ (.files [path]) =
      [Executor.resultAt Executor.oneFile [⟨"no-todo", NoTodo.rule, .null, none⟩]
        (path, .plainText)] := by
    rw [Target.results, hrules]
    exact Executor.executeOnFiles_of_eq_some hparser _ _
  have hlint : (exec (lint Executor.oneFile (.files [path])) ⟨todoEngine, .empty⟩).1 =
      .ok [Executor.resultAt Executor.oneFile [⟨"no-todo", NoTodo.rule, .null, none⟩]
        (path, .plainText)] := by
    rw [exec_lint, exec_setUp_todoEngine]
    exact congrArg Except.ok hresults
  refine ⟨hengine, ?_, _, hlint, ?_, ?_⟩
  · rintro p ⟨⟨x, hx, hbare⟩, -⟩
    obtain rfl := List.mem_singleton.1 hx
    exact absurd hbare (by decide)
  · exact (Executor.isResult_resultAt ..).filePath_eq
  · rw [Executor.resultAt, Executor.lintFile_of_read hread hsize]
    decide +kernel

end Fleet

end ProseLinter
