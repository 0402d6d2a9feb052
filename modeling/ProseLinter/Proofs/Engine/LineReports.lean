import ProseLinter.Proofs.Engine.Opened
import ProseLinter.Proofs.Registry.Newcomers
import ProseLinter.Proofs.Report.LinePerMessage
import ProseLinter.Proofs.Rule.OneLine

/-!
# Reports with a line for each message

Whether the reports of a run that are read line by line have a line for each message is decided by
its messages: they do exactly when no name of a rule and no text of a message holds a newline. A
pattern with a newline breaks them, since it comes into the text of every message that quotes it.
Without such patterns every report of a run has the form.

* `ActiveRule.oneLine_blockFor` : the messages of a rule without newlines in its name and patterns.
* `Engine.line_reports_iff` : when the reports of a run have a line for each message.
* `Engine.line_report_split` : a pattern that breaks a report.
-/

namespace ProseLinter

open Text

/-! ### Rules -/

/-- The check is one of a rule of the library or of a pattern rule, and no pattern has a newline,
neither one of the rule nor one that the options name. -/
inductive Rule.QuotesOneLine (rule : Rule) (options : Json) : Prop
  | markers (hcheck : rule.check = NoTodo.rule.check)
      (h : ∀ o, NoTodo.Options.decode options = .ok o → ∀ p ∈ o.patterns, OneLine p)
  | sentences (hcheck : rule.check = SentenceLength.rule.check)
  | words (hcheck : rule.check = NoDoubledWord.rule.check)
  | patterns (p : PatternRule) (hcheck : rule.check = p.toRule.check) (h : p.IsOneLine)

/-- The name of a rule has no newline, and neither has what it quotes. -/
structure ActiveRule.IsOneLine (a : ActiveRule) : Prop where
  name : OneLine a.name
  quotes : a.rule.QuotesOneLine a.options

namespace ActiveRule

open Executor

/-- What such a rule reports stands on one line. -/
theorem isOneLine_reportOn {a : ActiveRule} (h : a.IsOneLine) (document : Node)
    (source : List Char) (filePath : Option String) :
    (a.reportOn document source filePath).IsOneLine := by
  rw [reportOn]
  cases h.quotes with
  | markers hcheck hoptions =>
    rw [hcheck]
    refine NoTodo.isOneLine_check h.name fun o ho => ?_
    rw [Rule.Context.readOptions] at ho
    split at ho
    · cases ho
      simp
    · exact hoptions o (eq_ok_of_mapError ho)
  | sentences hcheck =>
    rw [hcheck]
    exact SentenceLength.isOneLine_check h.name
  | words hcheck =>
    rw [hcheck]
    exact NoDoubledWord.isOneLine_check _
  | patterns p hcheck hp =>
    rw [hcheck]
    exact PatternRule.isOneLine_check hp _

/-- All that such a rule has to say of what was opened stands on one line. -/
theorem oneLine_blockFor {a : ActiveRule} (h : a.IsOneLine) (d : Opened) :
    ∀ m ∈ a.blockFor d, m.OneLine := by
  have hreport := isOneLine_reportOn h d.document d.source d.filePath
  intro m hm
  rcases List.mem_append.1 hm with hm | hm
  · obtain ⟨f, hf, rfl⟩ := List.mem_map.1 hm
    exact ⟨h.name, hreport.findings f hf⟩
  · rw [failed] at hm
    split at hm
    · next e he =>
      obtain rfl := List.mem_singleton.1 hm
      refine ⟨(by decide : OneLine FileResult.fatalId), ?_⟩
      change OneLine ("Rule '" ++ a.name ++ "' failed: " ++ e.message)
      simp only [oneLine_append]
      exact ⟨⟨⟨by decide, h.name⟩, by decide⟩, hreport.failure e he⟩
    · exact absurd hm List.not_mem_nil

end ActiveRule

/-! ### Files -/

/-- What a parser says of texts without a document stands on one line. -/
def Parser.ExplainsOnOneLine (p : Parser) : Prop :=
  ∀ source e, p.parse source = .error e → OneLine e.message

/-- The parsers of the library only say of a text that it is too long. -/
theorem Parser.explainsOnOneLine_of_mem_default {p : Parser} (h : p ∈ Parsers.default.parsers) :
    p.ExplainsOnOneLine := by
  have hbounded {parse : List Char → Node} {source : List Char} {e : ParseError}
      (h : bounded parse source = .error e) : OneLine e.message := by
    rw [bounded] at h
    split at h
    · cases h
      change OneLine ("Source is " ++ toString (byteLength source) ++
        " bytes, more than spans can address")
      simp only [oneLine_append]
      exact ⟨⟨by decide, oneLine_toString _⟩, by decide⟩
    · cases h
  have hp : p = .markdown ∨ p = .plainText := by
    simpa [Parsers.default, Parsers.register, Parsers.empty] using h
  rcases hp with rfl | rfl <;> exact fun source e => hbounded

namespace Executor

variable {parser : Parser}

theorem oneLine_of_openSource (hparser : parser.ExplainsOnOneLine) {source : List Char}
    {filePath : Option String} {e : FileError} (h : openSource parser source filePath = .error e) :
    OneLine e.message := by
  rw [openSource] at h
  split at h
  · cases h
  · next reason hreason =>
    cases h
    change OneLine ("Parse error: " ++ reason.message)
    exact (oneLine_append _ _).2 ⟨by decide, hparser source reason hreason⟩

/-- Why a file could not be opened is said on one line. -/
theorem oneLine_of_openFile (hparser : parser.ExplainsOnOneLine) {files : FileTree} {path : Path}
    {e : FileError} (h : openFile files parser path = .error e) : OneLine e.message := by
  rw [openFile] at h
  split at h
  · next fault _ =>
    cases h
    change OneLine ("Failed to read file: " ++ fault.message)
    exact (oneLine_append _ _).2 ⟨by decide, by cases fault <;> decide⟩
  · next content _ =>
    split at h
    · cases h
      change OneLine ("File is too large (" ++ toString content.size ++ " bytes, limit is " ++
        toString sizeLimit ++ " bytes)")
      simp only [oneLine_append]
      exact ⟨⟨⟨⟨by decide, oneLine_toString _⟩, by decide⟩, oneLine_toString _⟩, by decide⟩
    · split at h
      · exact oneLine_of_openSource hparser h
      · cases h
        decide

end Executor

namespace Engine

open Executor Formatter

variable {files : FileTree} {s s' : State} {target : Target} {results : List FileResult}

/-- The paths of a target have no newline. -/
def Target.PathsOneLine : Target → Prop
  | .files paths => ∀ p ∈ paths, OneLine p.text
  | .text _ _ => True

/-- The places of a target have labels without newlines, and why one could not be opened is said on
one line. -/
theorem Target.oneLine_of_mem_places {parsers : Parsers} (hpaths : target.PathsOneLine)
    {place : String × Except FileError Opened} (h : place ∈ target.places files parsers) :
    OneLine place.1 ∧ ((∀ p ∈ parsers.parsers, p.ExplainsOnOneLine) →
      ∀ e, place.2 = .error e → OneLine e.message) := by
  have hmem {extension : String} {parser : Parser}
      (h : parsers.forExtension? extension = some parser) : parser ∈ parsers.parsers := by
    simp only [Parsers.forExtension?, Option.ite_none_right_eq_some] at h
    exact List.mem_of_find?_eq_some h.2
  cases target with
  | files paths =>
    obtain ⟨⟨path, parser⟩, hadmitted, rfl⟩ := List.mem_map.1 h
    obtain ⟨path', hpath, hparser⟩ := List.mem_filterMap.1 hadmitted
    obtain ⟨parser', hparser, heq⟩ := Option.map_eq_some_iff.1 hparser
    cases heq
    exact ⟨hpaths path hpath, fun hall e he => oneLine_of_openFile (hall _ (hmem hparser)) he⟩
  | text content extension =>
    obtain ⟨parser, hparser, rfl⟩ := List.mem_map.1 h
    rw [Option.mem_toList] at hparser
    exact ⟨(by decide : OneLine FileResult.textPath),
      fun hall e he => oneLine_of_openSource (hall _ (hmem hparser)) he⟩

/-- The messages of rules without newlines in their patterns stand on one line. -/
theorem Target.oneLine_of_mem_results (hpaths : target.PathsOneLine)
    (hparsers : ∀ p ∈ s.engine.parsers.parsers, p.ExplainsOnOneLine)
    (hrules : ∀ a ∈ activeRules s, a.IsOneLine) :
    ∀ p ∈ located (target.results files s), p.2.OneLine := by
  intro p hp
  obtain ⟨r, hr, hp⟩ := List.mem_flatMap.1 hp
  obtain ⟨m, hm, rfl⟩ := List.mem_map.1 hp
  rw [results_eq_resultsOf] at hr
  obtain ⟨⟨label, outcome⟩, hplace, rfl⟩ := List.mem_map.1 hr
  cases outcome with
  | ok d =>
    obtain ⟨a, ha, hm⟩ := List.mem_flatMap.1 hm
    exact ActiveRule.oneLine_blockFor (hrules a ha) d m hm
  | error e =>
    obtain rfl := List.mem_singleton.1 hm
    exact ⟨(by decide : OneLine FileResult.fatalId),
      (oneLine_of_mem_places hpaths hplace).2 hparsers e rfl⟩

/-- The paths of the results are the labels of the places. -/
theorem Target.oneLine_filePath (hpaths : target.PathsOneLine) :
    ∀ r ∈ target.results files s, OneLine r.filePath := by
  intro r hr
  rw [results_eq_resultsOf] at hr
  obtain ⟨⟨label, outcome⟩, hplace, rfl⟩ := List.mem_map.1 hr
  have hlabel := (oneLine_of_mem_places hpaths hplace).1
  cases outcome <;> exact hlabel

/-- An engine has linted files without newlines in their paths, or a text, and there are messages.
There is a report in each of the two formats that are read line by line. It has one line for each
message, in order and with the place of the message at its start, then an empty line and one with
their number, exactly when no name of a rule and no text of a message holds a newline. This is so
when no rule has a newline in its name or in a pattern. -/
theorem line_reports_iff (hrun : exec (lint files target) s = (.ok results, s'))
    (hpaths : target.PathsOneLine) (hsome : located results ≠ []) :
    ∃ compactReport unixReport,
      compact results = .ok compactReport ∧ unix results = .ok unixReport ∧
      (LinePerMessage compactPlace results compactReport ↔
        ∀ p ∈ located results, p.2.OneLine) ∧
      (LinePerMessage unixPlace results unixReport ↔ ∀ p ∈ located results, p.2.OneLine) ∧
      ((∀ p ∈ s'.engine.parsers.parsers, p.ExplainsOnOneLine) →
        (∀ a ∈ activeRules s', a.IsOneLine) → ∀ p ∈ located results, p.2.OneLine) := by
  -- What the run gave are the results of the target in the state after the set-up.
  have hresults : results = target.results files s' := by
    rw [exec_lint] at hrun
    obtain ⟨hout, rfl⟩ := Prod.mk.inj hrun
    obtain ⟨⟨⟩, -, rfl⟩ := exists_of_map_eq_ok hout
    rfl
  subst hresults
  have hlabels : ∀ r ∈ target.results files s', OneLine r.filePath :=
    Target.oneLine_filePath hpaths
  exact ⟨_, _, rfl, rfl, locates_compactLine.linePerMessage_iff hlabels hsome,
    locates_unixLine.linePerMessage_iff hlabels hsome, Target.oneLine_of_mem_results hpaths⟩

/-! ### A pattern with a newline -/

/-- An engine to which one rule was added. -/
def ruleEngine (rule : Rule) : Engine :=
  { todoEngine with config := {}, added := [.object "r" rule] }

/-- The state of that engine when it is set up. -/
def ruleState (rule : Rule) : State :=
  ⟨{ ruleEngine rule with isSetUp := true },
    Registry.empty.append ⟨"r", rule, .object, .default⟩⟩

/-- The engine lints with the rule. -/
theorem exec_lint_ruleEngine (rule : Rule) (target : Target) :
    exec (lint ⟨[], []⟩ target) ⟨ruleEngine rule, .empty⟩ =
      (.ok (target.results ⟨[], []⟩ (ruleState rule)), ruleState rule) := by
  have hname : Naming.normalizeRule "r" = "r" := by decide +kernel
  have hrequests : (ruleEngine rule).requests ⟨[], []⟩ =
      [.ok ⟨"r", rule, .object, .default⟩] := by
    change [(ruleEngine rule).ruleRequest ⟨[], []⟩ (.object "r" rule)] = _
    simp only [ruleRequest, Resolver.resolve, hname]
    rfl
  have hsetUp : exec (setUp ⟨[], []⟩) ⟨ruleEngine rule, .empty⟩ = (.ok (), ruleState rule) := by
    refine exec_setUp_of_serve_ok rfl ?_
    rw [hrequests,
      Registry.serve_cons_of_enter_eq_ok (Registry.enter_of_get?_eq_none (Registry.get?_empty _)),
      Registry.serve]
  rw [exec_lint, hsetUp]
  rfl

/-- The rule is the only one that runs. -/
theorem activeRules_ruleState (rule : Rule) :
    activeRules (ruleState rule) = [⟨"r", rule, .null, none⟩] := by
  have hentries : (ruleState rule).registry.entries = [⟨"r", rule, .object, .default⟩] :=
    Registry.consistent_empty.entries_append (Registry.get?_empty _)
  rw [activeRules, hentries]
  rfl

/-- A pattern rule that looks for one text. -/
def patternRule (text : String) : PatternRule where
  description := ""
  nodeTypes := [.str]
  caseSensitive := true
  patterns := [⟨text.toList, PatternRule.defaultText, .error⟩]

/-- The module that describes the rule. -/
def patternModule (text : String) : PatternModule where
  description := none
  nodeTypes := [.str]
  patterns := [⟨text, none, none⟩]
  caseSensitive := true
  text := none
  severity := none

/-- Two messages for one pattern, one line for each. -/
theorem line_reports_iff_two_messages :
    let target := Target.text "a\n\na" "txt"
    let rule := (patternRule "a").toRule
    ∃ results, exec (lint ⟨[], []⟩ target) ⟨ruleEngine rule, .empty⟩ =
        (.ok results, ruleState rule) ∧
      target.PathsOneLine ∧ (located results).length = 2 ∧
      ∃ compactReport unixReport, compact results = .ok compactReport ∧
        unix results = .ok unixReport ∧ LinePerMessage compactPlace results compactReport ∧
        LinePerMessage unixPlace results unixReport := by
  intro target rule
  have hrules : ∀ a ∈ activeRules (ruleState rule), a.IsOneLine := by
    rw [activeRules_ruleState]
    intro a ha
    obtain rfl := List.mem_singleton.1 ha
    refine ⟨(by decide : OneLine "r"), .patterns (patternRule "a") rfl fun p hp => ?_⟩
    obtain rfl := List.mem_singleton.1 hp
    decide
  have hlength : (located (target.results ⟨[], []⟩ (ruleState rule))).length = 2 := by
    simp only [Target.results, target, activeRules_ruleState]
    decide +kernel
  have hsome : located (target.results ⟨[], []⟩ (ruleState rule)) ≠ [] :=
    List.ne_nil_of_length_pos (by rw [hlength]; decide)
  obtain ⟨c, u, hc, hu, hcompact, hunix, hall⟩ :=
    line_reports_iff (exec_lint_ruleEngine rule target) trivial hsome
  have hmessages := hall (fun p hp => Parser.explainsOnOneLine_of_mem_default hp) hrules
  exact ⟨_, exec_lint_ruleEngine rule target, trivial, hlength, c, u, hc, hu,
    hcompact.2 hmessages, hunix.2 hmessages⟩

/-- A pattern with a newline: the message that quotes it makes two lines of one. -/
theorem line_report_split :
    let target := Target.text "x a\nb" "txt"
    PatternRule.ofModule (patternModule "a\nb") = .ok (patternRule "a\nb") ∧
      ∃ results s', exec (lint ⟨[], []⟩ target) ⟨ruleEngine (patternRule "a\nb").toRule, .empty⟩ =
          (.ok results, s') ∧
        target.PathsOneLine ∧ (located results).length = 1 ∧
        (∀ report, compact results = .ok report →
          ¬ LinePerMessage compactPlace results report) ∧
        ∀ report, unix results = .ok report → ¬ LinePerMessage unixPlace results report := by
  intro target
  have hresults : target.results ⟨[], []⟩ (ruleState (patternRule "a\nb").toRule) =
      [⟨"<text>", [⟨"r", "Found \"a\nb\"", 1, 3, .error, ⟨2, 5⟩⟩]⟩] := by
    simp only [Target.results, target, activeRules_ruleState]
    decide +kernel
  have hsplit : ¬ ∀ p ∈ located (target.results ⟨[], []⟩ (ruleState (patternRule "a\nb").toRule)),
      p.2.OneLine := by
    rw [hresults]
    intro h
    have htext : OneLine "Found \"a\nb\"" := (h _ List.mem_cons_self).text
    exact absurd htext (by decide)
  have hlabels : ∀ r ∈ target.results ⟨[], []⟩ (ruleState (patternRule "a\nb").toRule),
      OneLine r.filePath :=
    Target.oneLine_filePath trivial
  have hsome : located (target.results ⟨[], []⟩ (ruleState (patternRule "a\nb").toRule)) ≠ [] := by
    rw [hresults]
    exact List.cons_ne_nil _ _
  refine ⟨rfl, _, _, exec_lint_ruleEngine _ target, trivial, ?_, ?_, ?_⟩
  · rw [hresults]
    rfl
  · rintro report ⟨⟩ hlines
    exact hsplit ((locates_compactLine.linePerMessage_iff hlabels hsome).1 hlines)
  · rintro report ⟨⟩ hlines
    exact hsplit ((locates_unixLine.linePerMessage_iff hlabels hsome).1 hlines)

end Engine

end ProseLinter
