import ProseLinter.Proofs.CommandLine.WordTwice
import ProseLinter.Proofs.Files.Write

/-!
# What a run comes to

A run that fails at one of its stages says so with its exit code and leaves all as it was. Otherwise
there are results, and the report goes to where it should go, unless the format stops over a column
that is too wide.

* `Delivered` : a report is written as a whole, and the exit code says how it went.
* `Settles` : what a run should come to, whichever stage it reaches.
* `run_settles_iff` : a run does exactly when its format does not stop.
-/

namespace ProseLinter.CommandLine

open NoDoubledWord (wordTwice)

variable {files : FileTree} {home : Path} {a : Arguments} {stdin : Input} {console : Console}

/-! ### Writing -/

/-- A report cannot be written to where it should go. -/
def WritingFails (files : FileTree) (console : Console) (a : Arguments) (report : String) : Prop :=
  match a.outputFile with
  | some path => ∃ e, (writeReport files path report).1 = .error e
  | none => (console.write report).2.isSome

/-- A report is written as a whole, to standard output or to a file, and the exit code says whether
this failed or there was an error. Nothing else is printed, and nothing that was in the tree is
changed but the file. -/
structure Delivered (files : FileTree) (console : Console) (a : Arguments)
    (results : List FileResult) (report : String) (out : Outcome) : Prop where
  printed : a.outputFile = none → out.files = files ∧
    (¬ WritingFails files console a report → out.stdout = report)
  written : ∀ path, a.outputFile = some path → out.stdout = "" ∧
    (¬ WritingFails files console a report → out.files.read path = .ok report.toUTF8)
  kept : ∀ path, a.outputFile = some path → ∀ loc e, files.entry? loc = some e →
    out.files.entry? loc = some e ∨ out.files.resolve path = .ok loc
  code_eq_one : (WritingFails files console a report ∨
    ∃ r ∈ results, ∃ m ∈ r.messages, m.severity = .error) → out.code = 1
  code_eq_zero : ¬ (WritingFails files console a report ∨
    ∃ r ∈ results, ∃ m ∈ r.messages, m.severity = .error) → out.code = 0

theorem keeps_makeDirectoryOf (files : FileTree) (path : Path) :
    files.Keeps (makeDirectoryOf files path).2 := by
  rw [makeDirectoryOf]
  split
  · split
    · exact .refl files
    · exact files.keeps_makeDirectories _
  · exact .refl files

/-- A report that was written is read back. -/
theorem read_of_writeReport {path : Path} {report : String} {files' : FileTree}
    (h : writeReport files path report = (.ok (), files')) :
    files'.read path = .ok report.toUTF8 := by
  rw [writeReport] at h
  split at h
  · cases h
  · split at h
    · cases h
    · split at h
      · cases h
      · next written hwrite =>
        cases h
        exact FileTree.read_write hwrite

/-- Of what was there only the file of the report is changed. -/
theorem entry?_writeReport (files : FileTree) (path : Path) (report : String) {loc : Location}
    {e : Entry} (he : files.entry? loc = some e) :
    FileTree.entry? (writeReport files path report).2 loc = some e ∨
      (writeReport files path report).2.resolve path = .ok loc := by
  have hkeeps := keeps_makeDirectoryOf files path
  rw [writeReport]
  split
  · exact .inl he
  · split
    · next fault made hmade =>
      rw [hmade] at hkeeps
      exact .inl (hkeeps.entry?_eq loc e he)
    · next made hmade =>
      rw [hmade] at hkeeps
      have hentry := hkeeps.entry?_eq loc e he
      split
      · exact .inl hentry
      · next written hwrite => exact FileTree.entry?_write hwrite hentry

theorem hasErrorResults_iff (results : List FileResult) :
    hasErrorResults results = true ↔ ∃ r ∈ results, ∃ m ∈ r.messages, m.severity = .error := by
  simp [hasErrorResults, FileResult.hasErrors, Message.isError]

/-- Standard output that does not fail takes the text as a whole. -/
theorem Console.write_of_eq_none {text : String} (h : (console.write text).2 = none) :
    console.write text = (text, none) := by
  cases console with
  | working => rfl
  | failing room reason =>
    rw [write] at h ⊢
    split at h
    · next hroom => rw [if_pos hroom]
    · cases h

/-- The exit code of a report that was written. -/
def codeFor (results : List FileResult) : Nat :=
  if hasErrorResults results then 1 else 0

theorem codeFor_eq_one {results : List FileResult}
    (h : ∃ r ∈ results, ∃ m ∈ r.messages, m.severity = .error) : codeFor results = 1 :=
  if_pos ((hasErrorResults_iff results).2 h)

theorem codeFor_eq_zero {results : List FileResult}
    (h : ¬ ∃ r ∈ results, ∃ m ∈ r.messages, m.severity = .error) : codeFor results = 0 :=
  if_neg fun herror => h ((hasErrorResults_iff results).1 herror)

/-- A report for standard output is delivered. -/
theorem delivered_console (hfile : a.outputFile = none) (results : List FileResult)
    (report : String) :
    Delivered files console a results report
      (deliver files console none (codeFor results) report) := by
  have hfails : WritingFails files console a report ↔ (console.write report).2.isSome := by
    rw [WritingFails, hfile]
  rcases hwrite : console.write report with ⟨taken, reason?⟩
  rw [hwrite] at hfails
  cases reason? with
  | none =>
    obtain rfl : taken = report := by
      have hwhole := Console.write_of_eq_none (show (console.write report).2 = none by rw [hwrite])
      rw [hwrite] at hwhole
      exact congrArg Prod.fst hwhole
    have hworks : ¬ WritingFails files console a taken := fun h => by cases hfails.1 h
    rw [deliver, hwrite]
    exact {
      printed := fun _ => ⟨rfl, fun _ => rfl⟩
      written := by simp [hfile]
      kept := by simp [hfile]
      code_eq_one := fun h => codeFor_eq_one (h.resolve_left hworks)
      code_eq_zero := fun h => codeFor_eq_zero (not_or.1 h).2 }
  | some reason =>
    rw [deliver, hwrite]
    exact {
      printed := fun _ => ⟨rfl, fun h => absurd (hfails.2 rfl) h⟩
      written := by simp [hfile]
      kept := by simp [hfile]
      code_eq_one := fun _ => rfl
      code_eq_zero := fun h => absurd (.inl (hfails.2 rfl)) h }

/-- So is a report for a file. -/
theorem delivered_file {path : Path} (hfile : a.outputFile = some path)
    (results : List FileResult) (report : String) :
    Delivered files console a results report
      (deliver files console (some path) (codeFor results) report) := by
  have hfails : WritingFails files console a report ↔
      ∃ e, (writeReport files path report).1 = .error e := by
    rw [WritingFails, hfile]
  have hkept {loc : Location} {e : Entry} (he : files.entry? loc = some e) :=
    entry?_writeReport files path report he
  rcases hwrite : writeReport files path report with ⟨e | ⟨⟩, files'⟩
  · rw [hwrite] at hfails hkept
    have hfailed : WritingFails files console a report := hfails.2 ⟨e, rfl⟩
    rw [deliver, hwrite]
    exact {
      printed := by simp [hfile]
      written := fun _ _ => ⟨rfl, fun h => absurd hfailed h⟩
      kept := fun _ h _ _ he => by
        obtain rfl := Option.some.inj (hfile.symm.trans h)
        exact hkept he
      code_eq_one := fun _ => rfl
      code_eq_zero := fun h => absurd (.inl hfailed) h }
  · have hread := read_of_writeReport hwrite
    rw [hwrite] at hfails hkept
    have hworks : ¬ WritingFails files console a report := fun h => by
      obtain ⟨e, he⟩ := hfails.1 h
      cases he
    rw [deliver, hwrite]
    exact {
      printed := by simp [hfile]
      written := fun _ h => by
        obtain rfl := Option.some.inj (hfile.symm.trans h)
        exact ⟨rfl, fun _ => hread⟩
      kept := fun _ h _ _ he => by
        obtain rfl := Option.some.inj (hfile.symm.trans h)
        exact hkept he
      code_eq_one := fun h => codeFor_eq_one (h.resolve_left hworks)
      code_eq_zero := fun h => codeFor_eq_zero (not_or.1 h).2 }

/-! ### Runs -/

/-- What a run should come to that has something to lint: one that fails at a stage says so with its
exit code and leaves nothing behind, and any other delivers its report. -/
structure Settles (files : FileTree) (home : Path) (a : Arguments) (stdin : Input)
    (console : Console) (out : Outcome) : Prop where
  failed : ∀ e, Fails files home a stdin e → out.code = 2 ∧ out.stdout = "" ∧ out.files = files
  delivered : ∀ results name format, Reaches files home a stdin results name format →
    ∃ report, format results = .ok report ∧ Delivered files console a results report out

/-- A run that fails at a stage says so with its exit code and leaves nothing behind. -/
theorem lintAndReport_of_fails {e : RunError} (h : Fails files home a stdin e) :
    let out := lintAndReport files home a stdin console
    out.code = 2 ∧ out.stdout = "" ∧ out.files = files := by
  have hcode : e.code = 2 := by
    cases h with
    | input hengine h => exact code_of_targetOf h
    | _ => rfl
  rw [lintAndReport, lint_of_fails h]
  exact ⟨hcode, rfl, rfl⟩

/-- A run that passes all stages delivers its report. -/
theorem delivered_of_reaches {results : List FileResult} {name report : String}
    {format : Formatter} (h : Reaches files home a stdin results name format)
    (hreport : format results = .ok report) :
    Delivered files console a results report (lintAndReport files home a stdin console) := by
  have hout : lintAndReport files home a stdin console =
      deliver files console a.outputFile (codeFor results) report := by
    rw [lintAndReport, lint_of_reaches h, hreport]
    rfl
  rw [hout]
  cases hfile : a.outputFile with
  | none => exact delivered_console hfile results report
  | some path => exact delivered_file hfile results report

/-- A run whose format stops has an exit code of its own and leaves nothing behind. -/
theorem lintAndReport_of_stopped {results : List FileResult} {name : String} {format : Formatter}
    {fault : TooWide} (h : Reaches files home a stdin results name format)
    (hfault : format results = .error fault) :
    let out := lintAndReport files home a stdin console
    out.code = 101 ∧ out.stdout = "" ∧ out.files = files := by
  rw [lintAndReport, lint_of_reaches h, hfault]
  exact ⟨rfl, rfl, rfl⟩

/-- A run settles exactly if its format has a report of the results. -/
theorem settles_iff :
    Settles files home a stdin console (lintAndReport files home a stdin console) ↔
      ∀ results name format, Reaches files home a stdin results name format →
        ¬ (name = "stylish" ∧ ∃ r ∈ results, ∃ m ∈ r.messages, m.Wide) := by
  constructor
  · intro h results name format hreaches hwide
    obtain ⟨report, hreport, -⟩ := h.delivered results name format hreaches
    obtain ⟨fault, hfault⟩ := (exists_eq_error_iff_of_reaches hreaches).2 hwide
    rw [hreport] at hfault
    cases hfault
  · intro h
    refine ⟨fun e he => lintAndReport_of_fails he, fun results name format hreaches => ?_⟩
    cases hformat : format results with
    | error fault =>
      exact absurd ((exists_eq_error_iff_of_reaches hreaches).1 ⟨fault, hformat⟩)
        (h results name format hreaches)
    | ok report => exact ⟨report, rfl, delivered_of_reaches hreaches hformat⟩

/-- A run is asked to lint. Without files and without standard input it prints the help and looks at
no file at all. Otherwise it fails at a stage or passes all stages. It then settles exactly if it
does not get to the stylish format with a message that is too wide for a column; if it does, it
stops with an exit code of its own and no report. -/
theorem run_settles_iff {args : List String} (hparse : Arguments.parse args = .ok (.lint a)) :
    (a.files = [] → a.readsStdin = false →
      (run files home args stdin console).stdout = (console.write helpText).1 ∧
      ((console.write helpText).2 = none → (run files home args stdin console).code = 0) ∧
      ∀ files', run files' home args stdin console =
        { run files home args stdin console with files := files' }) ∧
    ((a.files ≠ [] ∨ a.readsStdin = true) →
      ((∃ e, Fails files home a stdin e) ∨
        ∃ results name format, Reaches files home a stdin results name format) ∧
      (Settles files home a stdin console (run files home args stdin console) ↔
        ∀ results name format, Reaches files home a stdin results name format →
          ¬ (name = "stylish" ∧ ∃ r ∈ results, ∃ m ∈ r.messages, m.Wide)) ∧
      ∀ results name format, Reaches files home a stdin results name format →
        name = "stylish" → (∃ r ∈ results, ∃ m ∈ r.messages, m.Wide) →
          (run files home args stdin console).code = 101 ∧
          (run files home args stdin console).stdout = "" ∧
          (run files home args stdin console).files = files) := by
  constructor
  · intro hfiles hstdin
    have hhelp (files : FileTree) :
        run files home args stdin console = printHelp files console := by
      rw [run, hparse]
      simp [hfiles, hstdin]
    rcases hwrite : console.write helpText with ⟨taken, reason?⟩
    simp only [hhelp, printHelp, hwrite]
    cases reason? with
    | none => exact ⟨rfl, fun _ => rfl, fun _ => rfl⟩
    | some reason => exact ⟨rfl, fun h => (Option.some_ne_none _ h).elim, fun _ => rfl⟩
  · intro hsome
    have hrun : run files home args stdin console = lintAndReport files home a stdin console := by
      have hcond : (a.files.isEmpty && !a.readsStdin) = false := by
        rcases hsome with hfiles | hstdin
        · rw [List.isEmpty_eq_false_iff.2 hfiles, Bool.false_and]
        · rw [hstdin, Bool.not_true, Bool.and_false]
      rw [run, hparse]
      simp only [hcond, Bool.false_eq_true, if_false]
    rw [hrun]
    refine ⟨fails_or_reaches files home a stdin, settles_iff, ?_⟩
    intro results name format hreaches hname hwide
    obtain ⟨fault, hfault⟩ := (exists_eq_error_iff_of_reaches hreaches).2 ⟨hname, hwide⟩
    exact lintAndReport_of_stopped hreaches hfault

/-- A word that is repeated: the report is printed, and the exit code says that there is an
error. -/
theorem run_settles_iff_doubled_word :
    Arguments.parse ["--rule", "no-doubled-word", "--stdin"] = .ok (.lint wordArguments) ∧
      (wordArguments.files ≠ [] ∨ wordArguments.readsStdin = true) ∧
      ∃ report, Formatter.stylish (wordResults "a a") = .ok report ∧
        let out := run ⟨[], []⟩ ⟨"/home"⟩ ["--rule", "no-doubled-word", "--stdin"] "a a".toUTF8
        out.code = 1 ∧ out.stdout = report := by
  have hparse : Arguments.parse ["--rule", "no-doubled-word", "--stdin"] =
      .ok (.lint wordArguments) := rfl
  have hresults : wordResults "a a" = [⟨"<text>",
      [⟨"no-doubled-word", "\"a\" is repeated.", 1, 3, .error, ⟨2, 3⟩⟩]⟩] := by
    decide +kernel
  have hreaches := reaches_wordResults ⟨"/home"⟩ "a a"
  have hsome : wordArguments.files ≠ [] ∨ wordArguments.readsStdin = true := .inr rfl
  have hnarrow : ∀ results name format,
      Reaches ⟨[], []⟩ ⟨"/home"⟩ wordArguments "a a".toUTF8 results name format →
        ¬ (name = "stylish" ∧ ∃ r ∈ results, ∃ m ∈ r.messages, m.Wide) := by
    rintro results name format h ⟨-, r, hr, m, hm, hwide⟩
    -- The results are those that were computed, and their one message is short.
    obtain ⟨rfl, -, -⟩ := hreaches.unique h
    rw [hresults] at hr
    obtain rfl := List.mem_singleton.1 hr
    obtain rfl := List.mem_singleton.1 hm
    rcases hwide with hwide | hwide <;> exact absurd hwide (by decide)
  have hsettles : Settles ⟨[], []⟩ ⟨"/home"⟩ wordArguments "a a".toUTF8 .working
      (run ⟨[], []⟩ ⟨"/home"⟩ ["--rule", "no-doubled-word", "--stdin"] "a a".toUTF8) :=
    (((run_settles_iff hparse).2 hsome).2.1).2 hnarrow
  obtain ⟨report, hreport, hdelivered⟩ := hsettles.delivered _ _ _ hreaches
  have hworks : ¬ WritingFails ⟨[], []⟩ .working wordArguments report := fun h => by cases h
  refine ⟨hparse, hsome, report, hreport, hdelivered.code_eq_one (.inr ?_),
    (hdelivered.printed rfl).2 hworks⟩
  rw [hresults]
  exact ⟨_, List.mem_cons_self, _, List.mem_cons_self, rfl⟩

/-- A repeated word that is too long for a column stops the run, which fails at no stage. -/
theorem stopped_of_long_word {w : List Char} (hne : w ≠ [])
    (hw : ∀ c ∈ w, NoDoubledWord.isWordChar c = true)
    (hlong : Formatter.widthLimit < w.length + 15)
    (hshort : Text.byteLength (wordTwice w) < Span.limit) {text : String}
    (htext : text = String.ofList (wordTwice w)) :
    let out := lintAndReport ⟨[], []⟩ home wordArguments text.toUTF8 console
    (∀ e, ¬ Fails ⟨[], []⟩ home wordArguments text.toUTF8 e) ∧ out.code = 101 ∧
      out.stdout = "" ∧ ¬ Settles ⟨[], []⟩ home wordArguments text.toUTF8 console out := by
  intro out
  have hreaches := reaches_wordResults home text
  obtain ⟨m, hm, -, hresults⟩ := exists_wordResults_wordTwice hne hw hshort
  have hwide : m.Wide := .inr (by rwa [hm, NoDoubledWord.length_messageText])
  have hmessage : ∃ r ∈ wordResults text, ∃ m ∈ r.messages, m.Wide := by
    rw [htext, hresults]
    exact ⟨_, List.mem_cons_self, m, List.mem_cons_self, hwide⟩
  obtain ⟨fault, hfault⟩ := (exists_eq_error_iff_of_reaches hreaches).2 ⟨rfl, hmessage⟩
  have hstopped : out.code = 101 ∧ out.stdout = "" ∧ out.files = ⟨[], []⟩ :=
    lintAndReport_of_stopped hreaches hfault
  refine ⟨fun e he => ?_, hstopped.1, hstopped.2.1, fun h => ?_⟩
  · -- A run that fails at a stage has another exit code.
    have hfailed : out.code = 2 ∧ out.stdout = "" ∧ out.files = ⟨[], []⟩ :=
      lintAndReport_of_fails he
    exact absurd (hfailed.1.symm.trans hstopped.1) (by decide)
  · obtain ⟨report, hreport, -⟩ := h.delivered _ _ _ hreaches
    rw [hfault] at hreport
    cases hreport

/-- A text of one line on which the run stops, although it passes all stages. -/
theorem run_stopped_by_long_word :
    ∃ text : String, text.length = 131073 ∧
      Arguments.parse ["--rule", "no-doubled-word", "--stdin"] = .ok (.lint wordArguments) ∧
      wordArguments.readsStdin = true ∧
      (∃ results name format,
        Reaches ⟨[], []⟩ ⟨"/home"⟩ wordArguments text.toUTF8 results name format) ∧
      (∀ e, ¬ Fails ⟨[], []⟩ ⟨"/home"⟩ wordArguments text.toUTF8 e) ∧
      let out := run ⟨[], []⟩ ⟨"/home"⟩ ["--rule", "no-doubled-word", "--stdin"] text.toUTF8
      out.code = 101 ∧ out.stdout = "" ∧
        ¬ Settles ⟨[], []⟩ ⟨"/home"⟩ wordArguments text.toUTF8 .working out := by
  obtain ⟨w, hwdef⟩ : ∃ w, w = List.replicate 65536 'a' := ⟨_, rfl⟩
  have hlength : w.length = 65536 := by rw [hwdef, List.length_replicate]
  have hbytes : Text.byteLength w = 65536 := by
    rw [hwdef, Text.byteLength_replicate, show ('a' : Char).utf8Size = 1 from rfl]
  have hne : w ≠ [] := List.ne_nil_of_length_pos (by omega)
  have hword : ∀ c ∈ w, NoDoubledWord.isWordChar c = true := by
    intro c hc
    rw [hwdef] at hc
    rw [List.eq_of_mem_replicate hc]
    decide
  have hshort : Text.byteLength (wordTwice w) < Span.limit := by
    rw [wordTwice, Text.byteLength_append, Text.byteLength_cons, hbytes,
      show (' ' : Char).utf8Size = 1 from rfl]
    decide
  have hlong : Formatter.widthLimit < w.length + 15 := by
    rw [hlength]
    decide
  refine ⟨String.ofList (wordTwice w), ?_, rfl, rfl, ⟨_, _, _, reaches_wordResults _ _⟩,
    stopped_of_long_word hne hword hlong hshort rfl⟩
  rw [String.length_ofList, wordTwice, List.length_append, List.length_cons, hlength]

end ProseLinter.CommandLine
