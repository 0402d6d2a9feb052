import ProseLinter.Proofs.Report.Filling

/-!
# What is filled in is not looked at again

The places of a template are filled in one pass. A path, the text of a message or the name of a rule
that is filled in may hold braces and look like a place of the template: it is written as it is. So
if other values stood in the results, the report would be the same but for these values.

* `Template.Portion` : a piece of a report, which is fixed by the template or stands for a value.
* `Template.fill_eq_joined` : a template is filled portion by portion.
* `Template.filled_in_one_pass` : the parts of a template, the loop that fills them, and the
  portions of a report.
-/

namespace ProseLinter

/-- A message with other values for its text and the name of its rule. -/
def Message.withValues (value : String → String) (m : Message) : Message :=
  { m with ruleId := value m.ruleId, text := value m.text }

/-- A result with other values for its path and for the texts and rules of its messages. -/
def FileResult.withValues (value : String → String) (r : FileResult) : FileResult :=
  ⟨value r.filePath, r.messages.map (·.withValues value)⟩

/-- A summary counts messages and does not depend on what they say. -/
theorem Summary.ofResults_withValues (value : String → String) (results : List FileResult) :
    ofResults (results.map (·.withValues value)) = ofResults results := by
  rw [ofResults, ofResults, List.foldl_map]
  congr 1
  funext s r
  have hcount (severity : Severity) : (r.withValues value).count severity = r.count severity := by
    rw [FileResult.count, FileResult.withValues, List.countP_map]
    rfl
  rw [hcount, hcount, FileResult.withValues, List.length_map]

namespace Template

/-! ### Portions of a report -/

/-- A piece of a report. -/
inductive Portion where
  /-- Text of a template, or a number or severity that is filled in. -/
  | fixed (text : String)
  /-- A path, the text of a message or the name of a rule. -/
  | value (text : String)

/-- The text of a portion, with other values. -/
def Portion.text (value : String → String) : Portion → String
  | .fixed text => text
  | .value text => value text

/-- The portion that a part of a template becomes, given what the places are filled with. -/
def Segment.portion (portion? : String → Option Portion) : Segment → Portion
  | .literal text => .fixed (String.ofList text)
  | .place name =>
    (portion? (String.ofList name)).getD (.fixed (String.ofList ('\x7b' :: name ++ ['\x7d'])))

/-- The portions that a template becomes. -/
def portions (template : String) (portion? : String → Option Portion) : List Portion :=
  (segments template.toList).map (·.portion portion?)

/-- The portions for the places of the text for a file. -/
def filePortion? (r : FileResult) (key : String) : Option Portion :=
  match key with
  | "filePath" => some (.value r.filePath)
  | _ => none

/-- The portions for the places of the text for a message. -/
def messagePortion? (r : FileResult) (m : Message) (key : String) : Option Portion :=
  match key with
  | "line" => some (.fixed (toString m.line))
  | "column" => some (.fixed (toString m.column))
  | "severity" => some (.fixed m.severity.name)
  | "message" => some (.value m.text)
  | "ruleId" => some (.value m.ruleId)
  | key => filePortion? r key

/-- The portions of a report. -/
def reportPortions (t : Template) (results : List FileResult) : List Portion :=
  portions t.header (fun _ => none)
    ++ (results.filter fun r => !r.messages.isEmpty || t.includeClean).flatMap (fun r =>
      portions t.file (filePortion? r)
        ++ r.messages.flatMap fun m => portions t.message (messagePortion? r m))
    ++ portions t.summary fun key =>
      (summaryField (Summary.ofResults results) key).map .fixed

variable {value : String → String} {lookup : String → Option String}

/-! ### Filling portion by portion -/

/-- The report that portions make. -/
def joined (value : String → String) (portions : List Portion) : String :=
  String.join (portions.map (Portion.text value))

theorem joined_append (ps qs : List Portion) :
    joined value (ps ++ qs) = joined value ps ++ joined value qs := by
  rw [joined, List.map_append, String.join_append]
  rfl

theorem joined_flatMap {α : Type} (items : List α) (f : α → List Portion) :
    joined value (items.flatMap f) = String.join (items.map fun a => joined value (f a)) := by
  induction items with
  | nil => rfl
  | cons a items ih =>
    rw [List.flatMap_cons, joined_append, ih, List.map_cons, String.join_cons]

/-- A part of a template is filled with the text of its portion. -/
theorem toList_text_portion {portion? : String → Option Portion}
    (h : ∀ key, lookup key = (portion? key).map (Portion.text value))
    (part : Segment) : ((part.portion portion?).text value).toList = part.fill lookup := by
  cases part with
  | literal text => exact String.toList_ofList
  | place name =>
    rw [Segment.portion, Segment.fill, h]
    cases portion? (String.ofList name) with
    | none => exact String.toList_ofList
    | some portion => rfl

/-- A template is filled portion by portion. -/
theorem fill_eq_joined (portion? : String → Option Portion)
    (h : ∀ key, lookup key = (portion? key).map (Portion.text value)) (template : String) :
    fill template lookup = joined value (portions template portion?) := by
  apply String.toList_inj.1
  rw [fill, joined, portions, String.toList_ofList, String.toList_join, List.map_map,
    List.flatMap_map]
  congr 1
  funext part
  exact (toList_text_portion h part).symm

/-! ### Reports portion by portion -/

theorem fileField_withValues (r : FileResult) (key : String) :
    fileField (r.withValues value) key = (filePortion? r key).map (Portion.text value) := by
  unfold fileField filePortion?
  split
  · rfl
  · simp

theorem messageField_withValues (r : FileResult) (m : Message) (key : String) :
    messageField (r.withValues value) (m.withValues value) key =
      (messagePortion? r m key).map (Portion.text value) := by
  unfold messageField messagePortion?
  split
  case h_6 => simp_all [fileField_withValues]
  all_goals rfl

theorem fileText_withValues (t : Template) (r : FileResult) :
    t.fileText (r.withValues value) =
      joined value (portions t.file (filePortion? r)
        ++ r.messages.flatMap fun m => portions t.message (messagePortion? r m)) := by
  rw [fileText, fill_eq_joined _ (fileField_withValues r), joined_append, joined_flatMap]
  congr 2
  rw [FileResult.withValues, List.map_map]
  refine List.map_congr_left fun m _ => ?_
  exact fill_eq_joined _ (messageField_withValues r m) t.message

/-- With other values in the results, the report has the same portions. -/
theorem report_withValues (t : Template) (results : List FileResult) (value : String → String) :
    t.report (results.map (·.withValues value)) = joined value (t.reportPortions results) := by
  -- Whether a file is shown depends on whether it has messages, and not on what they say.
  have hshown : (results.map (·.withValues value)).filter
        (fun r => !r.messages.isEmpty || t.includeClean) =
      (results.filter fun r => !r.messages.isEmpty || t.includeClean).map
        (·.withValues value) := by
    rw [List.filter_map]
    congr 2
    funext r
    simp [FileResult.withValues]
  have hheader : fill t.header (fun _ => none) = joined value (portions t.header fun _ => none) :=
    fill_eq_joined (fun _ => none) (fun _ => rfl) t.header
  have hsummary : fill t.summary (summaryField (Summary.ofResults results)) =
      joined value (portions t.summary fun key =>
        (summaryField (Summary.ofResults results) key).map .fixed) := by
    refine fill_eq_joined _ (fun key => ?_) t.summary
    cases summaryField (Summary.ofResults results) key <;> rfl
  rw [report, Summary.ofResults_withValues, hshown, hheader, hsummary, reportPortions,
    joined_append, joined_append, joined_flatMap, List.map_map]
  congr 3
  exact List.map_congr_left fun r _ => fileText_withValues t r

/-- A template falls into literal parts and places in one way, of which nothing is lost. Whatever is
known for the places, the loop that fills them one after the other comes to an end and writes the
literal parts, the values as they are, and the places for which nothing is known with their braces.
In a report, no path, text of a message or name of a rule has any effect but to be written where it
belongs. -/
theorem filled_in_one_pass :
    (∀ template : String, ∃ parts : List Segment,
      (∀ others, FallsInto template.toList others ↔ others = parts) ∧
      parts.flatMap Segment.written = template.toList ∧
      (∀ lookup, fill? template lookup = some (fill template lookup) ∧
        fill template lookup = String.ofList (parts.flatMap (·.fill lookup))) ∧
      fill template (fun _ => none) = template) ∧
    ∀ (t : Template) (results : List FileResult), ∃ portions : List Portion,
      ∀ value : String → String, t.format (results.map (·.withValues value)) =
        .ok (String.join (portions.map (Portion.text value))) := by
  constructor
  · intro template
    have hparts := fallsInto_segments template.toList
    refine ⟨segments template.toList, fun others => fallsInto_iff, hparts.flatMap_written,
      fun lookup => ⟨fill?_eq template lookup, rfl⟩, ?_⟩
    simp only [fill, Segment.fill_none]
    rw [hparts.flatMap_written, String.ofList_toList]
  · intro t results
    refine ⟨t.reportPortions results, fun value => ?_⟩
    exact congrArg Except.ok (report_withValues t results value)

end Template

end ProseLinter
