import ProseLinter.Proofs.CommandLine.Run
import ProseLinter.Proofs.Report.Totals

/-!
# Totals and the verdict

The summary of a report and the exit code of a run are computed apart from each other: one counts
messages, the other looks for an error. They agree for all results, so a report that counts errors
comes with the exit code one, and any other with zero.

* `Summary.Totals` : what the numbers of a summary count.
* `Formatter.EndsInSummary` : the summary as the stylish report shows it.
* `CommandLine.totals_agree_with_verdict` : the summary, the verdict and the exit code.
-/

namespace ProseLinter

/-- The numbers of a summary are sums over the results. Every message is counted once, information
as no more than a message. -/
structure Summary.Totals (s : Summary) (results : List FileResult) : Prop where
  problems_eq_sum : s.problems = (results.map (·.messages.length)).sum
  errors_eq_sum : s.errors = (results.map (·.count .error)).sum
  warnings_eq_sum : s.warnings = (results.map (·.count .warning)).sum
  problems_eq : s.problems = s.errors + s.warnings + (results.map (·.count .info)).sum

theorem Summary.totals_ofResults (results : List FileResult) :
    (Summary.ofResults results).Totals results where
  problems_eq_sum := by rw [ofResults_eq]
  errors_eq_sum := by rw [ofResults_eq]
  warnings_eq_sum := by rw [ofResults_eq]
  problems_eq := problems_eq results

namespace Formatter

/-- A report is empty if there is nothing to count, and otherwise ends in the line with the
numbers. -/
def EndsInSummary (s : Summary) (report : String) : Prop :=
  s.problems = 0 ∧ report = "" ∨
    s.problems ≠ 0 ∧ ∃ blocks, report = blocks ++ stylishSummary s

theorem endsInSummary_of_stylish {results : List FileResult} {report : String}
    (h : stylish results = .ok report) : EndsInSummary (Summary.ofResults results) report := by
  rw [stylish] at h
  split at h
  · next hnone =>
    cases h
    exact .inl ⟨eq_of_beq hnone, rfl⟩
  · next hsome =>
    obtain ⟨blocks, -, h⟩ := exists_of_bind_eq_ok h
    cases h
    exact .inr ⟨by simpa using hsome, String.join blocks, rfl⟩

end Formatter

namespace CommandLine

variable {files : FileTree} {home : Path} {a : Arguments} {stdin : Input} {console : Console}
  {results : List FileResult} {name report : String} {format : Formatter}

/-- The exit code of a run whose report was written says whether there are errors. -/
theorem code_of_reaches (h : Reaches files home a stdin results name format)
    (hreport : format results = .ok report) (hwritten : ¬ WritingFails files console a report) :
    (lintAndReport files home a stdin console).code =
      if 0 < (Summary.ofResults results).errors then 1 else 0 := by
  have hdelivered : Delivered files console a results report
      (lintAndReport files home a stdin console) := delivered_of_reaches h hreport
  have herror : 0 < (Summary.ofResults results).errors ↔
      ∃ r ∈ results, ∃ m ∈ r.messages, m.severity = .error := by
    rw [← hasErrorResults_iff_errors_pos, hasErrorResults_iff]
  split
  · next hpos => exact hdelivered.code_eq_one (.inr (herror.1 hpos))
  · next hzero =>
    refine hdelivered.code_eq_zero ?_
    rintro (hfails | hsome)
    · exact hwritten hfails
    · exact hzero (herror.2 hsome)

/-- The numbers of a summary add up over lists of results, whatever the order of the results and of
their messages, and are the sums of those of the single results. There are errors among them exactly
if some result has an error, which is what the verdict says. So the line with the numbers at the
end of a stylish report and the exit code of a run that has written its report never contradict each
other. -/
theorem totals_agree_with_verdict (results more : List FileResult) :
    let s := Summary.ofResults results
    Summary.ofResults (results ++ more) = s + Summary.ofResults more ∧
      (∀ others, Rearranged results others → Summary.ofResults others = s) ∧
      s.Totals results ∧
      (hasErrorResults results = true ↔ 0 < s.errors) ∧
      (0 < s.errors ↔ ∃ r ∈ results, r.hasErrors = true) ∧
      (∀ report, Formatter.stylish results = .ok report → Formatter.EndsInSummary s report) ∧
      ∀ files home a stdin console name format report,
        Reaches files home a stdin results name format → format results = .ok report →
          ¬ WritingFails files console a report →
            (lintAndReport files home a stdin console).code = if 0 < s.errors then 1 else 0 := by
  intro s
  refine ⟨Summary.ofResults_append results more, ?_, Summary.totals_ofResults results,
    hasErrorResults_iff_errors_pos results, Summary.errors_pos_iff results, ?_, ?_⟩
  · intro others hothers
    exact (Summary.ofResults_of_rearranged hothers).symm
  · intro report hreport
    exact Formatter.endsInSummary_of_stylish hreport
  · intro files home a stdin console name format report hreaches hreport hwritten
    exact code_of_reaches hreaches hreport hwritten

/-- The message about a word that is repeated, with a severity. -/
def repeatedMessage (severity : Severity) : Message :=
  ⟨"no-doubled-word", "\"a\" is repeated.", 1, 3, severity, ⟨2, 3⟩⟩

/-- Results in another order have the same numbers, and a run with one error says so at the end of
its report and with its exit code. -/
theorem totals_agree_with_verdict_doubled_word :
    let mild : FileResult := ⟨"a.md", [repeatedMessage .info, repeatedMessage .warning]⟩
    let swapped : FileResult := ⟨"a.md", [repeatedMessage .warning, repeatedMessage .info]⟩
    let failed : FileResult := ⟨"<text>", [repeatedMessage .error]⟩
    (Rearranged [mild, failed] [failed, swapped] ∧
      Summary.ofResults [failed, swapped] = Summary.ofResults [mild, failed]) ∧
    ∃ report, Formatter.stylish [failed] = .ok report ∧
      (∃ blocks, report = blocks ++ "✖ 1 problem (1 error, 0 warnings)\n") ∧
      (lintAndReport ⟨[], []⟩ ⟨"/home"⟩ wordArguments "a a".toUTF8 .working).code = 1 := by
  intro mild swapped failed
  have hrearranged : Rearranged [mild, failed] [failed, swapped] :=
    ⟨[failed, mild], .swap _ _ _, .cons ⟨rfl, .refl _⟩ (.cons ⟨rfl, .swap _ _ _⟩ .nil)⟩
  refine ⟨⟨hrearranged, (totals_agree_with_verdict [mild, failed] []).2.1 _ hrearranged⟩, ?_⟩
  obtain ⟨-, -, -, -, -, hsummary, hcode⟩ := totals_agree_with_verdict [failed] []
  have hresults : wordResults "a a" = [failed] := by decide +kernel
  have hreaches := reaches_wordResults ⟨"/home"⟩ "a a"
  rw [hresults] at hreaches
  have hworks (report : String) : ¬ WritingFails ⟨[], []⟩ .working wordArguments report :=
    fun h => by cases h
  cases hreport : Formatter.stylish [failed] with
  | error fault =>
    -- The format does not stop, since the message is short.
    obtain ⟨r, hr, m, hm, hwide⟩ := Formatter.exists_stylish_eq_error_iff.1 ⟨fault, hreport⟩
    obtain rfl := List.mem_singleton.1 hr
    obtain rfl := List.mem_singleton.1 hm
    rcases hwide with hwide | hwide <;> exact absurd hwide (by decide)
  | ok report =>
    refine ⟨report, rfl, ?_, ?_⟩
    · have hline : Formatter.stylishSummary (Summary.ofResults [failed]) =
          "✖ 1 problem (1 error, 0 warnings)\n" := by decide +kernel
      rcases hsummary report hreport with ⟨hnone, -⟩ | ⟨-, hblocks⟩
      · exact absurd hnone (by decide)
      · rwa [hline] at hblocks
    · exact hcode _ _ _ _ _ _ _ _ hreaches hreport (hworks report)

end CommandLine

end ProseLinter
