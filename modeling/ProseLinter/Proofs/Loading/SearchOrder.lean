import Mathlib.Logic.Function.Iterate
import ProseLinter.Proofs.Loading.ExplicitPath

/-!
# The order in which a rule is looked for

A name is looked for in files of the base directory, in the catalog, and in files of the user's own
directory, at most fourteen places in one order. The first of them that holds something decides what
comes of the name, also when that is no rule.

* `Resolver.places` : the places in their order.
* `Resolver.Place.Gives` : what comes of a place that holds something.
* `Resolver.first_place_decides` : the first such place decides, and only without one the name is
  reported as not found.
-/

namespace ProseLinter

/-- The error with another text for what was not found. -/
def LintError.quoting (text : String) : LintError → LintError
  | ruleNotFound _ searched => ruleNotFound text searched
  | err => err

namespace Resolver

variable {r : Resolver} {files : FileTree} {base? : Option Path} {name n : String}

/-- A place where a rule may be. -/
inductive Place where
  | file (path : Path)
  | package (name : String)
deriving DecidableEq

namespace Place

/-- The file that a place is, unless it is a package. -/
def file? : Place → Option Path
  | file path => some path
  | package _ => none

/-- Whether there is something at a place. -/
def holds (r : Resolver) (files : FileTree) : Place → Bool
  | file path => files.isFile path
  | package name => r.catalog.contains name

/-- What comes of a place that holds something: the rule of the package, or what comes of the module
file. -/
inductive Gives (r : Resolver) (files : FileTree) (name : String) :
    Place → Except LintError ResolvedRule → Prop
  | file {path : Path} {outcome : Except LintError ResolvedRule}
      (h : Reads files path name outcome) : Gives r files name (file path) outcome
  | package {package : String} {rule : Rule} (h : r.catalog.get? package = some rule) :
      Gives r files name (.package package) (.ok ⟨name, rule, .bundled package⟩)

/-- A place that holds something is not passed over. -/
theorem Gives.ne_ruleNotFound {place : Place} {outcome : Except LintError ResolvedRule}
    (h : place.Gives r files name outcome) (text : String) (paths : List Path) :
    outcome ≠ .error (.ruleNotFound text paths) := by
  cases h with
  | file h => exact h.ne_error _ fun _ h => by cases h
  | package h => exact fun h => by cases h

/-- No error of a place that holds something quotes what was asked for. -/
theorem Gives.mapError_quoting {place : Place} {outcome : Except LintError ResolvedRule}
    (h : place.Gives r files name outcome) (text : String) :
    outcome.mapError (·.quoting text) = outcome := by
  cases h with
  | file h => cases h <;> rfl
  | package h => rfl

end Place

/-- The files of a directory that are looked for under a name. -/
def filesIn (dir : Path) (name : String) : List Path :=
  [dir.join ⟨Naming.rulePrefix ++ name ++ ".json"⟩,
    dir.join ⟨Naming.rulePrefix ++ name ++ ".jsonc"⟩,
    (dir.join ⟨Naming.rulePrefix ++ name⟩).join ⟨"rule.json"⟩,
    dir.join ⟨name ++ ".json"⟩,
    dir.join ⟨name ++ ".jsonc"⟩,
    (dir.join ⟨name⟩).join ⟨"rule.json"⟩]

/-- The places where the rule of a name is looked for: the base directory, the catalog and the
user's own directory. -/
def places (r : Resolver) (base? : Option Path) (name : String) : List Place :=
  base?.toList.flatMap (fun dir => (filesIn dir name).map .file) ++
    [.package (Naming.rulePrefix ++ name), .package name] ++
    r.home.toList.flatMap fun home => (filesIn (home.join ⟨"rules"⟩) name).map .file

/-! ### The first place that holds something -/

theorem candidatesIn_eq (dir? : Option Path) (name : String) :
    candidatesIn dir? [Naming.rulePrefix ++ name, name] =
      dir?.toList.flatMap fun dir => filesIn dir name := by
  cases dir? with
  | none => rfl
  | some dir =>
    simp [candidatesIn, Naming.candidates, Naming.moduleExtensions, filesIn, manifest,
      String.append_assoc]

theorem places_eq (r : Resolver) (base? : Option Path) (name : String) :
    r.places base? name =
      (candidatesIn base? [Naming.rulePrefix ++ name, name]).map .file ++
        [Naming.rulePrefix ++ name, name].map .package ++
        (candidatesIn (r.home.map homeRules) [Naming.rulePrefix ++ name, name]).map .file := by
  rw [candidatesIn_eq, candidatesIn_eq, places]
  cases base? <;> cases r.home <;> simp [homeRules]

/-- The first place that holds something is a file of the base directory, else a package, else a
file of the user's own directory. -/
theorem find?_places (r : Resolver) (files : FileTree) (base? : Option Path) (name : String) :
    (r.places base? name).find? (·.holds r files) =
      (((candidatesIn base? [Naming.rulePrefix ++ name, name]).find? files.isFile).map .file).or
        (((r.package? name).map .package).or
          (((candidatesIn (r.home.map homeRules) [Naming.rulePrefix ++ name, name]).find?
            files.isFile).map .file)) := by
  rw [places_eq, List.append_assoc, List.find?_append, List.find?_append, List.find?_map,
    List.find?_map, List.find?_map]
  rfl

/-- What the catalog has for a name is the rule of the first package that it holds. -/
theorem gives_of_bundled? (files : FileTree) {found : ResolvedRule}
    (h : r.bundled? name [Naming.rulePrefix ++ name, name] = some found) :
    ∃ package, r.package? name = some package ∧
      Place.Gives r files name (.package package) (.ok found) := by
  have hkey := r.bundled?_map_key name [Naming.rulePrefix ++ name, name]
  rw [h, Option.map_some, eq_comm, Option.map_eq_some_iff] at hkey
  obtain ⟨package, hpackage, hfound⟩ := hkey
  obtain ⟨package', horigin, hrule⟩ := get?_of_bundled? h
  obtain ⟨foundName, rule, origin⟩ := found
  obtain ⟨rfl, rfl⟩ := Prod.mk.inj hfound
  cases horigin
  exact ⟨package, hpackage, .package hrule⟩

/-- What comes of a plain name is what comes of the first place that holds something, in whatever
way the name is written. Without such a place the name is not found. -/
theorem resolveName_cases_of_isPlain (r : Resolver) (files : FileTree) (base? : Option Path)
    (hplain : Naming.isPlain (Naming.normalizeRule n) = true) :
    (∃ place outcome,
      (r.places base? (Naming.normalizeRule n)).find? (·.holds r files) = some place ∧
        place.Gives r files (Naming.normalizeRule n) outcome ∧
        ∀ n', Naming.normalizeRule n' = Naming.normalizeRule n →
          r.resolveName files n' base? = outcome) ∨
    ((r.places base? (Naming.normalizeRule n)).find? (·.holds r files) = none ∧
      ∀ n', Naming.normalizeRule n' = Naming.normalizeRule n →
        r.resolveName files n' base? = .error (.ruleNotFound n'
          ((r.places base? (Naming.normalizeRule n)).filterMap Place.file?))) := by
  rw [find?_places]
  generalize hbare : Naming.normalizeRule n = bare at hplain
  cases hnear : (candidatesIn base? [Naming.rulePrefix ++ bare, bare]).find? files.isFile with
  | some f =>
    left
    refine ⟨.file f, loadFile files bare f, rfl,
      .file (Modules.reads_of_isFile (List.find?_some hnear) rfl), ?_⟩
    intro n' hn'
    simp [resolveName, hn', hplain, hnear]
  | none =>
    cases hbundled : r.bundled? bare [Naming.rulePrefix ++ bare, bare] with
    | some found =>
      obtain ⟨package, hpackage, hgives⟩ := gives_of_bundled? files hbundled
      left
      refine ⟨.package package, .ok found, by rw [hpackage]; rfl, hgives, ?_⟩
      intro n' hn'
      simp [resolveName, hn', hplain, hnear, hbundled]
    | none =>
      have hpackage : r.package? bare = none := package?_eq_none_of_bundled? hbundled
      rw [hpackage]
      cases hfar : (candidatesIn (r.home.map homeRules) [Naming.rulePrefix ++ bare, bare]).find?
          files.isFile with
      | some f =>
        left
        refine ⟨.file f, loadFile files bare f, rfl,
          .file (Modules.reads_of_isFile (List.find?_some hfar) rfl), ?_⟩
        intro n' hn'
        simp [resolveName, hn', hplain, hnear, hbundled, hfar]
      | none =>
        right
        refine ⟨rfl, fun n' hn' => ?_⟩
        have hfiles : (r.places base? bare).filterMap Place.file? =
            candidatesIn base? [Naming.rulePrefix ++ bare, bare] ++
              candidatesIn (r.home.map homeRules) [Naming.rulePrefix ++ bare, bare] := by
          rw [places_eq]
          simp [Place.file?, Function.comp_def, List.filterMap_cons]
        rw [hfiles]
        simp [resolveName, hn', hplain, hnear, hbundled, hfar]

/-- A plain name is looked for in the places of one order, and the first that holds something
decides what comes of it: the rule there, under the name without prefixes and with the place as its
origin, or the complaint about the module file. The name is reported as not found exactly if no
place holds anything, with all files that were looked for. Prefixes in front of a name change
nothing but the name in that report. -/
theorem first_place_decides (r : Resolver) (files : FileTree) (base? : Option Path) (n : String)
    (hplain : Naming.isPlain (Naming.normalizeRule n) = true) :
    (∀ place, (r.places base? (Naming.normalizeRule n)).find? (·.holds r files) = some place →
      place.Gives r files (Naming.normalizeRule n) (r.resolve files base? (.name n))) ∧
    ((∀ place ∈ r.places base? (Naming.normalizeRule n), place.holds r files = false) ↔
      ∃ text paths, r.resolve files base? (.name n) = .error (.ruleNotFound text paths)) ∧
    (∀ text paths, r.resolve files base? (.name n) = .error (.ruleNotFound text paths) →
      text = n ∧ paths = (r.places base? (Naming.normalizeRule n)).filterMap Place.file?) ∧
    ∀ k, r.resolve files base? (.name ((Naming.rulePrefix ++ ·)^[k] n)) =
      (r.resolve files base? (.name n)).mapError (·.quoting ((Naming.rulePrefix ++ ·)^[k] n)) := by
  have hnone : (r.places base? (Naming.normalizeRule n)).find? (·.holds r files) = none ↔
      ∀ place ∈ r.places base? (Naming.normalizeRule n), place.holds r files = false := by
    simp
  have hprefixes (k : Nat) :
      Naming.normalizeRule ((Naming.rulePrefix ++ ·)^[k] n) = Naming.normalizeRule n :=
    Naming.strip_iterate_append (by decide) k n
  simp only [resolve]
  rw [← hnone]
  rcases resolveName_cases_of_isPlain r files base? hplain with
    ⟨place, outcome, hfirst, hgives, houtcome⟩ | ⟨hmissing, houtcome⟩
  · have hfound := hgives.ne_ruleNotFound
    rw [hfirst, houtcome n rfl]
    refine ⟨?_, iff_of_false (Option.some_ne_none place) ?_, ?_, fun k => ?_⟩
    · rintro _ ⟨⟩
      exact hgives
    · rintro ⟨text, paths, h⟩
      exact hfound text paths h
    · exact fun text paths h => absurd h (hfound text paths)
    · rw [houtcome _ (hprefixes k), hgives.mapError_quoting]
  · rw [hmissing, houtcome n rfl]
    refine ⟨by simp, iff_of_true rfl ⟨_, _, rfl⟩, ?_, fun k => ?_⟩
    · rintro text paths ⟨⟩
      exact ⟨rfl, rfl⟩
    · rw [houtcome _ (hprefixes k)]
      rfl

/-- A base directory with a module of the name of a rule of the catalog that is no rule. -/
def shadowingTree : FileTree :=
  ⟨[(["b"], .directory), (["b", "no-todo.json"], .file "\x7b\x7d".toUTF8)], []⟩

/-- The resolver of the bundled catalog and a home that is not there. -/
def shadowedResolver : Resolver :=
  ⟨.bundled, some ⟨"h"⟩⟩

/-- A module that is no rule is not passed over for the rule of the catalog. -/
theorem broken_file_decides :
    (shadowedResolver.places (some ⟨"b"⟩) "no-todo").length = 14 ∧
    shadowedResolver.catalog.contains "kotolint-rule-no-todo" = true ∧
    ∃ err, ∀ k, shadowedResolver.resolve shadowingTree (some ⟨"b"⟩)
      (.name ((Naming.rulePrefix ++ ·)^[k] "no-todo")) = .error (.invalidModule err) := by
  have hbare : Naming.normalizeRule "no-todo" = "no-todo" := by decide +kernel
  have hfirst : (shadowedResolver.places (some ⟨"b"⟩) "no-todo").find?
      (·.holds shadowedResolver shadowingTree) = some (.file ⟨"b/no-todo.json"⟩) := by
    decide +kernel
  obtain ⟨hgives, -, -, hprefixes⟩ := first_place_decides shadowedResolver shadowingTree
    (some ⟨"b"⟩) "no-todo" (by decide +kernel)
  rw [hbare] at hgives
  have hreads := hgives _ hfirst
  refine ⟨by decide +kernel, by decide +kernel, ?_⟩
  simp only [hprefixes]
  generalize shadowedResolver.resolve shadowingTree (some ⟨"b"⟩) (.name "no-todo") = outcome
    at hreads
  cases hreads with
  | file hreads =>
    cases hreads with
    | @broken file err hfile hrule => exact ⟨err, fun k => rfl⟩
    | @loaded file rule hfile hrule =>
      have hcanonical : (shadowingTree.canonical ⟨"b/no-todo.json"⟩).toOption =
          some ⟨"/b/no-todo.json"⟩ := by decide +kernel
      have hbroken : (Modules.loadRule shadowingTree ⟨"/b/no-todo.json"⟩).toOption.isNone = true :=
        by decide +kernel
      obtain rfl := Except.ok.inj (hfile.symm.trans (eq_ok_of_toOption hcanonical))
      rw [hrule] at hbroken
      cases hbroken

end Resolver

end ProseLinter
