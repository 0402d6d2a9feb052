import ProseLinter.CommandLine.Run
import ProseLinter.Proofs.Engine.Call
import ProseLinter.Proofs.Report.Width

/-!
# The stages of a run

A run goes through its stages one after the other, and each of them may fail: the configuration is
read, an engine is built, standard input is read, the rules are set up and the report format is
found. None of them touches the files. A run that passes them all has results and a format.

* `Fails` and `Reaches` : a run fails at one of its stages, or passes all of them.
* `fails_or_reaches`, `Reaches.unique` : there is no other way for a run to go.
* `lint_of_fails`, `lint_of_reaches` : what the run has in either case.
* `exists_eq_error_iff_of_reaches` : when the format stops over the results.
-/

namespace ProseLinter.CommandLine

open Engine (Target exec setUp)

variable {files : FileTree} {home : Path} {a : Arguments} {stdin : Input}

/-- What a run lints: the text on standard input, if it can be read, or the files. -/
def targetOf (a : Arguments) (stdin : Input) : Except RunError Target :=
  if a.readsStdin then stdin.text.map fun text => .text text (stdinExtension a)
  else .ok (.files a.files)

/-- Standard input that cannot be read is a failure like others. -/
theorem code_of_targetOf {e : RunError} (h : targetOf a stdin = .error e) : e.code = 2 := by
  rw [targetOf] at h
  split at h
  · have htext := eq_error_of_map h
    cases stdin with
    | bytes content =>
      rw [Input.text] at htext
      split at htext
      · cases htext
      · cases htext
        rfl
    | failing reason =>
      cases htext
      rfl
  · cases h

/-- A run gets as far as its engine. -/
structure Builds (files : FileTree) (home : Path) (a : Arguments) (engine : Engine) : Prop where
  exists_options : ∃ options, configure files a = .ok options ∧
    Engine.ofConfig files options.normalize ⟨.bundled, home⟩ home = .ok engine

/-- The stage at which a run fails. -/
inductive Fails (files : FileTree) (home : Path) (a : Arguments) (stdin : Input) :
    RunError → Prop
  | configuration {e : ConfigError} (h : configure files a = .error e) :
      Fails files home a stdin (.lint (.config e))
  | engine {options : ConfigOptions} {e : LintError} (hoptions : configure files a = .ok options)
      (h : Engine.ofConfig files options.normalize ⟨.bundled, home⟩ home = .error e) :
      Fails files home a stdin (.lint e)
  | input {engine : Engine} {e : RunError} (hengine : Builds files home a engine)
      (h : targetOf a stdin = .error e) : Fails files home a stdin e
  | rules {engine : Engine} {target : Target} {e : LintError}
      (hengine : Builds files home a engine) (htarget : targetOf a stdin = .ok target)
      (h : (exec (setUp files) ⟨engine, .empty⟩).1 = .error e) :
      Fails files home a stdin (.lint e)
  | format {engine : Engine} {target : Target} {s : Engine.State} {e : LintError}
      (hengine : Builds files home a engine) (htarget : targetOf a stdin = .ok target)
      (hsetUp : exec (setUp files) ⟨engine, .empty⟩ = (.ok (), s))
      (h : s.engine.formatter files = .error e) : Fails files home a stdin (.lint e)

/-- A run passes all stages: its results, and the format of its report with the name by which it was
found. -/
structure Reaches (files : FileTree) (home : Path) (a : Arguments) (stdin : Input)
    (results : List FileResult) (name : String) (format : Formatter) : Prop where
  exists_state : ∃ engine target s, Builds files home a engine ∧ targetOf a stdin = .ok target ∧
    exec (setUp files) ⟨engine, .empty⟩ = (.ok (), s) ∧ results = target.results files s ∧
    name = engine.config.formatterName.getD Formatter.defaultName ∧
    s.engine.formatter files = .ok format

/-- A run fails at one of the stages or passes all of them. -/
theorem fails_or_reaches (files : FileTree) (home : Path) (a : Arguments) (stdin : Input) :
    (∃ e, Fails files home a stdin e) ∨
      ∃ results name format, Reaches files home a stdin results name format := by
  -- One stage after the other, each of which needs what those before it gave.
  cases hoptions : configure files a with
  | error e => exact .inl ⟨_, .configuration hoptions⟩
  | ok options =>
    cases hengine : Engine.ofConfig files options.normalize ⟨.bundled, home⟩ home with
    | error e => exact .inl ⟨_, .engine hoptions hengine⟩
    | ok engine =>
      have hbuilds : Builds files home a engine := ⟨options, hoptions, hengine⟩
      cases htarget : targetOf a stdin with
      | error e => exact .inl ⟨e, .input hbuilds htarget⟩
      | ok target =>
        rcases hsetUp : exec (setUp files) ⟨engine, .empty⟩ with ⟨e | ⟨⟩, s⟩
        · exact .inl ⟨_, .rules hbuilds htarget (by rw [hsetUp])⟩
        · cases hformat : s.engine.formatter files with
          | error e => exact .inl ⟨_, .format hbuilds htarget hsetUp hformat⟩
          | ok format =>
            exact .inr ⟨_, _, format, engine, target, s, hbuilds, htarget, hsetUp, rfl, rfl,
              hformat⟩

theorem Builds.unique {engine engine' : Engine} (h : Builds files home a engine)
    (h' : Builds files home a engine') : engine = engine' := by
  obtain ⟨options, hoptions, hengine⟩ := h
  obtain ⟨options', hoptions', hengine'⟩ := h'
  obtain rfl := Except.ok.inj (hoptions.symm.trans hoptions')
  exact Except.ok.inj (hengine.symm.trans hengine')

/-- There is only one way to pass all stages. -/
theorem Reaches.unique {results results' : List FileResult} {name name' : String}
    {format format' : Formatter} (h : Reaches files home a stdin results name format)
    (h' : Reaches files home a stdin results' name' format') :
    results = results' ∧ name = name' ∧ format = format' := by
  obtain ⟨engine, target, s, hengine, htarget, hsetUp, rfl, rfl, hformat⟩ := h
  obtain ⟨engine', target', s', hengine', htarget', hsetUp', rfl, rfl, hformat'⟩ := h'
  -- The stages are functions, so each gives the same both times.
  obtain rfl := hengine.unique hengine'
  obtain rfl := Except.ok.inj (htarget.symm.trans htarget')
  obtain rfl := congrArg Prod.snd (hsetUp.symm.trans hsetUp')
  exact ⟨rfl, rfl, Except.ok.inj (hformat.symm.trans hformat')⟩

/-- With an engine a run goes on to what it lints. -/
theorem lint_of_builds {engine : Engine} (h : Builds files home a engine) :
    lint files home a stdin =
      match targetOf a stdin with
      | .error e => .error e
      | .ok target => do
        let (results?, s) := exec (Engine.lint files target) ⟨engine, .empty⟩
        let results ← results?.mapError .lint
        let report ← (← (s.engine.formatResults files results).mapError .lint).mapError .stopped
        return (report, hasErrorResults results) := by
  obtain ⟨options, hoptions, hengine⟩ := h
  rw [lint, hoptions]
  simp only [Except.mapError, bind, Except.bind, hengine, targetOf]
  split
  · cases stdin.text <;> rfl
  · rfl

/-- A run that fails at a stage has no report. -/
theorem lint_of_fails {e : RunError} (h : Fails files home a stdin e) :
    lint files home a stdin = .error e := by
  cases h with
  | configuration h =>
    rw [lint, h]
    rfl
  | engine hoptions h =>
    rw [lint, hoptions]
    simp only [Except.mapError, bind, Except.bind, h]
  | input hengine h => rw [lint_of_builds hengine, h]
  | rules hengine htarget h =>
    rw [lint_of_builds hengine, htarget]
    simp only [Engine.exec_lint, h]
    rfl
  | format hengine htarget hsetUp h =>
    rw [lint_of_builds hengine, htarget]
    simp only [Engine.exec_lint, hsetUp, Engine.formatResults, h]
    rfl

/-- A run that passes all stages has the report of its results, unless the format stops. -/
theorem lint_of_reaches {results : List FileResult} {name : String} {format : Formatter}
    (h : Reaches files home a stdin results name format) :
    lint files home a stdin =
      ((format results).mapError .stopped).map fun report => (report, hasErrorResults results) := by
  obtain ⟨engine, target, s, hengine, htarget, hsetUp, rfl, -, hformat⟩ := h
  rw [lint_of_builds hengine, htarget]
  simp only [Engine.exec_lint, hsetUp, Engine.formatResults, hformat, Except.map, Except.mapError,
    bind, Except.bind]
  cases format (target.results files s) <;> rfl

/-- An engine of a configuration has no registered formats. -/
theorem formatters_of_ofConfig {config : Config} {resolver : Resolver} {pluginHome : Option Path}
    {engine : Engine} (h : Engine.ofConfig files config resolver pluginHome = .ok engine) :
    engine.formatters = .empty := by
  rw [Engine.ofConfig] at h
  split at h
  · split at h
    · cases h
    · cases h
      rfl
  · cases h
    rfl

/-- The format of a run stops over messages that are too wide if it is the stylish one, and
otherwise never. -/
theorem exists_eq_error_iff_of_reaches {results : List FileResult} {name : String}
    {format : Formatter} (h : Reaches files home a stdin results name format) :
    (∃ fault, format results = .error fault) ↔
      name = "stylish" ∧ ∃ r ∈ results, ∃ m ∈ r.messages, m.Wide := by
  obtain ⟨engine, target, s, ⟨options, -, hengine⟩, -, hsetUp, -, rfl, hformat⟩ := h
  -- The set-up changes neither the configuration nor the formats, and of these none is registered.
  have hgrows := (Engine.grows_setUp files ⟨engine, .empty⟩).1.engine_eq
  rw [hsetUp] at hgrows
  rw [Engine.formatter, hgrows] at hformat
  simp only [formatters_of_ofConfig hengine] at hformat
  exact Formatters.exists_eq_error_iff_of_resolve hformat

end ProseLinter.CommandLine
