import Mathlib.Data.List.Forall2
import ProseLinter.Proofs.Text.Lines
import ProseLinter.Report.Formatter

/-!
# One line for each message

The compact format and the one that editors read write a line for each message, then an empty line
and the number of messages. A line is ended by a newline, so a report has the form that it should
have exactly when no path, name of a rule or text of a message holds a newline of its own.

* `Formatter.LinePerMessage` : the form of such a report.
* `Formatter.Locates.linePerMessage_iff` : when a report has it.
* `Formatter.locates_compactLine` and `Formatter.locates_unixLine` : the lines of the two formats.
-/

namespace ProseLinter

open Text

/-- The name of the rule and the text of a message stand on one line. -/
structure Message.OneLine (m : Message) : Prop where
  ruleId : Text.OneLine m.ruleId
  text : Text.OneLine m.text

namespace Formatter

/-- All messages with the results that they belong to, in order. -/
def located (results : List FileResult) : List (FileResult × Message) :=
  results.flatMap fun r => r.messages.map fun m => (r, m)

/-- A report has one line for each message, in order, each with the place of the message at its
start, then an empty line and one with the number of messages. -/
def LinePerMessage (place : FileResult → Message → String) (results : List FileResult)
    (report : String) : Prop :=
  ∃ lines : List (List Char),
    List.Forall₂ (fun p line => (place p.1 p.2).toList <+: line) (located results) lines ∧
    splitOn '\n' report.toList =
      lines ++ [[], (plural (located results).length "problem").toList, []]

theorem problems_ofResults (results : List FileResult) :
    (Summary.ofResults results).problems = (located results).length := by
  have hfold (s : Summary) :
      (results.foldl (fun s r => Summary.mk (s.problems + r.messages.length)
        (s.errors + r.count .error) (s.warnings + r.count .warning)) s).problems =
      s.problems + (located results).length := by
    induction results generalizing s with
    | nil => rfl
    | cons r results ih =>
      rw [List.foldl_cons, ih, located, located, List.flatMap_cons, List.length_append,
        List.length_map, Nat.add_assoc]
  rw [Summary.ofResults, hfold, Nat.zero_add]

variable {results : List FileResult} {place line : FileResult → Message → String}

/-- The lines of the messages, each ended by a newline, and then the number of messages. -/
theorem toList_lineByLine (h : located results ≠ []) :
    (lineByLine line results).toList =
      ((located results).map fun p => (line p.1 p.2).toList).flatMap (· ++ ['\n']) ++
        '\n' :: ((plural (located results).length "problem").toList ++ ['\n']) := by
  have hcount : ((located results).length == 0) = false := by simpa using h
  have hlines : results.flatMap (fun r => r.messages.map fun m => line r m ++ "\n") =
      (located results).map fun p => line p.1 p.2 ++ "\n" := by
    rw [located, List.map_flatMap]
    simp only [List.map_map]
    rfl
  simp only [lineByLine, countLine, problems_ofResults, hcount, hlines, String.toList_append,
    String.toList_join, List.flatMap_map]
  simp

/-- The number of messages stands on one line. -/
theorem oneLine_plural (n : Nat) : OneLine (plural n "problem") := by
  rw [plural, oneLine_append, oneLine_append, oneLine_append]
  refine ⟨⟨⟨oneLine_toString n, by decide⟩, by decide⟩, ?_⟩
  split <;> decide

/-- A report in which a line is written for each message has one line for each message exactly when
nothing that is written as a line holds a newline. -/
theorem linePerMessage_lineByLine_iff
    (hplace : ∀ r m, (place r m).toList <+: (line r m).toList) (h : located results ≠ []) :
    LinePerMessage place results (lineByLine line results) ↔
      ∀ p ∈ located results, OneLine (line p.1 p.2) := by
  rw [LinePerMessage, toList_lineByLine h]
  constructor
  · rintro ⟨lines, hlines, hsplit⟩
    -- There are no more newlines in the report than those that end the lines.
    have hlength := congrArg List.length hsplit
    rw [length_splitOn, List.count_append, List.count_cons_self, List.count_append,
      List.count_eq_zero.2 (oneLine_plural _), List.length_append, ← hlines.length_eq] at hlength
    have hone := (count_flatMap_le_iff ((located results).map fun p => (line p.1 p.2).toList)).2.1
    rw [List.length_map] at hone
    simp only [List.count_singleton_self, List.length_cons, List.length_nil] at hlength
    intro p hp
    exact hone (by omega) _ (List.mem_map_of_mem hp)
  · intro hone
    refine ⟨(located results).map fun p => (line p.1 p.2).toList, ?_, ?_⟩
    · rw [List.forall₂_map_right_iff, List.forall₂_same]
      exact fun p _ => hplace p.1 p.2
    · rw [splitOn_flatMap, splitOn, if_pos (beq_self_eq_true _), splitOn_append (oneLine_plural _)]
      · rfl
      · intro l hl
        obtain ⟨p, hp, rfl⟩ := List.mem_map.1 hl
        exact hone p hp

/-! ### The two formats -/

/-- A line starts with the place of the message, and no newline comes into it but from the path, the
name of the rule or the text. -/
structure Locates (place line : FileResult → Message → String) : Prop where
  place_prefix : ∀ r m, (place r m).toList <+: (line r m).toList
  oneLine_iff : ∀ r m, OneLine r.filePath → (OneLine (line r m) ↔ m.OneLine)

/-- The report has one line for each message exactly when every message stands on one line. -/
theorem Locates.linePerMessage_iff (hline : Locates place line)
    (hpaths : ∀ r ∈ results, OneLine r.filePath) (h : located results ≠ []) :
    LinePerMessage place results (lineByLine line results) ↔
      ∀ p ∈ located results, p.2.OneLine := by
  rw [linePerMessage_lineByLine_iff hline.place_prefix h]
  refine forall₂_congr fun p hp => hline.oneLine_iff p.1 p.2 ?_
  obtain ⟨r, hr, hp⟩ := List.mem_flatMap.1 hp
  obtain ⟨m, -, rfl⟩ := List.mem_map.1 hp
  exact hpaths r hr

/-- The start of a line in the compact format. -/
def compactPlace (r : FileResult) (m : Message) : String :=
  r.filePath ++ ": line " ++ toString m.line ++ ", col " ++ toString m.column ++ ", "

theorem compactLine_eq (r : FileResult) (m : Message) :
    compactLine r m = compactPlace r m ++ (severityLabel m.severity ++ (" - " ++
      (m.text ++ (" (" ++ (m.ruleId ++ ")"))))) := by
  simp only [compactLine, compactPlace, String.append_assoc]

theorem locates_compactLine : Locates compactPlace compactLine where
  place_prefix r m := by
    rw [compactLine_eq, String.toList_append]
    exact List.prefix_append _ _
  oneLine_iff r m h := by
    have hplace : OneLine (compactPlace r m) := by
      simp only [compactPlace, oneLine_append]
      exact ⟨⟨⟨⟨⟨h, by decide⟩, oneLine_toString _⟩, by decide⟩, oneLine_toString _⟩, by decide⟩
    have hlabel : OneLine (severityLabel m.severity) := by
      cases m.severity <;> decide
    rw [compactLine_eq]
    simp only [oneLine_append]
    constructor
    · rintro ⟨-, -, -, htext, -, hruleId, -⟩
      exact ⟨hruleId, htext⟩
    · rintro ⟨hruleId, htext⟩
      exact ⟨hplace, hlabel, by decide, htext, by decide, hruleId, by decide⟩

/-- The start of a line in the format that editors read. -/
def unixPlace (r : FileResult) (m : Message) : String :=
  r.filePath ++ ":" ++ toString m.line ++ ":" ++ toString m.column ++ ": "

theorem unixLine_eq (r : FileResult) (m : Message) :
    unixLine r m = unixPlace r m ++ (m.text ++ (" [" ++ (m.severity.name ++
      ("/" ++ (m.ruleId ++ "]"))))) := by
  simp only [unixLine, unixPlace, String.append_assoc]

theorem locates_unixLine : Locates unixPlace unixLine where
  place_prefix r m := by
    rw [unixLine_eq, String.toList_append]
    exact List.prefix_append _ _
  oneLine_iff r m h := by
    have hplace : OneLine (unixPlace r m) := by
      simp only [unixPlace, oneLine_append]
      exact ⟨⟨⟨⟨⟨h, by decide⟩, oneLine_toString _⟩, by decide⟩, oneLine_toString _⟩, by decide⟩
    have hname : OneLine m.severity.name := by
      cases m.severity <;> decide
    rw [unixLine_eq]
    simp only [oneLine_append]
    constructor
    · rintro ⟨-, htext, -, -, -, hruleId, -⟩
      exact ⟨hruleId, htext⟩
    · rintro ⟨hruleId, htext⟩
      exact ⟨hplace, htext, by decide, hname, by decide, hruleId, by decide⟩

end Formatter

end ProseLinter
