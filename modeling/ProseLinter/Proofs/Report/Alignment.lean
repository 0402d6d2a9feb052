import Mathlib.Data.List.Forall2
import Mathlib.Order.Bounds.Defs
import ProseLinter.Proofs.Report.Width
import ProseLinter.Proofs.Text.Slice

/-!
# Aligned columns

The stylish format writes the rows of a file in columns. Each column is as wide as the widest entry
in it, and the entries are padded with blanks and never cut, so the names of the rules stand one
below the other. Widths count characters, not bytes, and so does the padding.

* `Formatter.IsRow` : the row of a message in columns of some widths.
* `Formatter.IsBlock` : the block of a file, with the names of the rules at one offset.
* `Formatter.Aligned` : a report of blocks.
* `Formatter.stylish_aligned_iff` : the report has this form unless a message is too wide.
-/

namespace ProseLinter.Formatter

open Text

variable {w : Widths} {m : Message} {messages : List Message} {r : FileResult}
  {results : List FileResult}

/-! ### Rows, blocks and reports -/

/-- So many blanks. -/
def blanks (n : Nat) : String :=
  String.ofList (List.replicate n ' ')

/-- The row of a message in columns of some widths, with two blanks before each of them: the line
and the column flush right, the severity and the text flush left, and the name of the rule. What
does not fit a column has no row. -/
inductive IsRow (w : Widths) (m : Message) : String → Prop
  | intro (before behindSeverity behindText : Nat)
      (hposition : before + (toString m.line ++ ":" ++ toString m.column).length = w.position)
      (hseverity : m.severity.name.length + behindSeverity = w.severity)
      (htext : m.text.length + behindText = w.text) :
      IsRow w m
        ("  " ++ (blanks before ++ (toString m.line ++ ":" ++ toString m.column)) ++ "  " ++
          (m.severity.name ++ blanks behindSeverity) ++ "  " ++ (m.text ++ blanks behindText) ++
          "  " ++ m.ruleId ++ "\n")

/-- Each column is as wide as its widest entry and no wider. -/
structure Widths.Fits (w : Widths) (messages : List Message) : Prop where
  position : IsGreatest {n | ∃ m ∈ messages, (positionText m).length = n} w.position
  severity : IsGreatest {n | ∃ m ∈ messages, m.severity.name.length = n} w.severity
  text : IsGreatest {n | ∃ m ∈ messages, m.text.length = n} w.text

/-- The block of a file: its path, a row for each message in order and an empty line. In all rows
the name of the rule starts at one offset. -/
structure IsBlock (r : FileResult) (w : Widths) (rows : List String) (block : String) : Prop where
  fits : w.Fits r.messages
  isRow : List.Forall₂ (IsRow w) r.messages rows
  ruleIds : ∃ offset, List.Forall₂ (fun m row =>
    ∃ front : String, front.length = offset ∧ row = front ++ m.ruleId ++ "\n") r.messages rows
  text_eq : block = r.filePath ++ "\n" ++ String.join rows ++ "\n"

/-- A report with aligned columns: it is empty if there is no message, and otherwise has the blocks
of the results with messages, in order, and a summary. -/
structure Aligned (results : List FileResult) (report : String) : Prop where
  eq_empty_iff : report = "" ↔ ∀ r ∈ results, r.messages = []
  blocks : report ≠ "" → ∃ blocks : List String,
    List.Forall₂ (fun r block => ∃ w rows, IsBlock r w rows block)
      (results.filter fun r => !r.messages.isEmpty) blocks ∧
    report = String.join blocks ++ stylishSummary (Summary.ofResults results)

/-! ### Widths -/

/-- The greatest length is that of one of the texts, and none is longer. -/
theorem isGreatest_widest {α : Type} (f : α → String) {xs : List α} (hne : xs ≠ []) :
    IsGreatest {n | ∃ x ∈ xs, (f x).length = n} (widest (xs.map f)) := by
  have hle : ∀ x ∈ xs, (f x).length ≤ widest (xs.map f) := by
    intro x hx
    by_contra hlt
    exact Nat.lt_irrefl _ (lt_widest_map_iff.2 ⟨x, hx, Nat.lt_of_not_le hlt⟩)
  constructor
  · -- One less than the greatest length is not the greatest, so a text is longer than that.
    cases hwidest : widest (xs.map f) with
    | zero =>
      obtain ⟨x, hx⟩ := List.exists_mem_of_ne_nil xs hne
      have := hle x hx
      exact ⟨x, hx, by omega⟩
    | succ n =>
      obtain ⟨x, hx, hlt⟩ := lt_widest_map_iff.1 (Nat.lt_of_lt_of_eq n.lt_succ_self hwidest.symm)
      have := hle x hx
      exact ⟨x, hx, by omega⟩
  · rintro n ⟨x, hx, rfl⟩
    exact hle x hx

theorem fits_ofMessages (hne : messages ≠ []) : (Widths.ofMessages messages).Fits messages := by
  have hposition := isGreatest_widest positionText hne
  have hseverity := isGreatest_widest (fun m : Message => m.severity.name) hne
  have htext := isGreatest_widest Message.text hne
  exact ⟨hposition, hseverity, htext⟩

/-! ### What is written -/

/-- The columns of a row have the widths, and nothing in them is cut. -/
theorem isRow_stylishRow (hw : w.Fits messages) (hm : m ∈ messages) :
    IsRow w m (stylishRow w m) := by
  have hposition : (positionText m).length ≤ w.position := hw.position.2 ⟨m, hm, rfl⟩
  have hseverity : m.severity.name.length ≤ w.severity := hw.severity.2 ⟨m, hm, rfl⟩
  have htext : m.text.length ≤ w.text := hw.text.2 ⟨m, hm, rfl⟩
  exact .intro (w.position - (positionText m).length) (w.severity - m.severity.name.length)
    (w.text - m.text.length) (Nat.sub_add_cancel hposition) (Nat.add_sub_cancel' hseverity)
    (Nat.add_sub_cancel' htext)

theorem length_blanks (n : Nat) : (blanks n).length = n := by
  simp [blanks]

/-- The name of the rule starts behind the columns and the blanks before them. -/
theorem IsRow.exists_front {row : String} (h : IsRow w m row) :
    ∃ front : String, front.length = w.position + w.severity + w.text + 8 ∧
      row = front ++ m.ruleId ++ "\n" := by
  cases h with
  | intro before behindSeverity behindText hposition hseverity htext =>
    refine ⟨_, ?_, rfl⟩
    simp only [String.length_append, length_blanks] at *
    have hgap : "  ".length = 2 := rfl
    omega

/-- The block of a file whose messages all fit their columns. -/
def blockText (r : FileResult) : String :=
  r.filePath ++ "\n" ++
    String.join (r.messages.map (stylishRow (Widths.ofMessages r.messages))) ++ "\n"

theorem stylishBlock_of_not_wide (h : ∀ m ∈ r.messages, ¬ m.Wide) :
    stylishBlock r = .ok (blockText r) := by
  have hnone : (Widths.ofMessages r.messages).tooWide? = none := by
    rw [← Option.not_isSome_iff_eq_none, isSome_tooWide?_iff]
    rintro ⟨m, hm, hwide⟩
    exact h m hm hwide
  rw [stylishBlock, hnone]
  rfl

theorem isBlock_blockText (hne : r.messages ≠ []) :
    ∃ w rows, IsBlock r w rows (blockText r) := by
  have hfits := fits_ofMessages hne
  have hrows : List.Forall₂ (IsRow (Widths.ofMessages r.messages)) r.messages
      (r.messages.map (stylishRow (Widths.ofMessages r.messages))) := by
    rw [List.forall₂_map_right_iff, List.forall₂_same]
    exact fun m hm => isRow_stylishRow hfits hm
  exact ⟨_, _, hfits, hrows, ⟨_, hrows.imp fun _ _ hrow => hrow.exists_front⟩, rfl⟩

theorem stylish_of_no_message (h : ∀ r ∈ results, r.messages = []) :
    stylish results = .ok "" := by
  have hnone : located results = [] := by
    rw [located, List.flatMap_eq_nil_iff]
    intro r hr
    rw [h r hr, List.map_nil]
  have hproblems : (Summary.ofResults results).problems = 0 := by
    rw [problems_ofResults, hnone, List.length_nil]
  rw [stylish, if_pos (by simpa using hproblems)]
  rfl

theorem stylish_of_not_wide (hsome : ¬ ∀ r ∈ results, r.messages = [])
    (h : ∀ r ∈ results, ∀ m ∈ r.messages, ¬ m.Wide) :
    stylish results =
      .ok (String.join ((results.filter fun r => !r.messages.isEmpty).map blockText) ++
        stylishSummary (Summary.ofResults results)) := by
  have hproblems : (Summary.ofResults results).problems ≠ 0 := by
    rw [problems_ofResults, Ne, List.length_eq_zero_iff, located, List.flatMap_eq_nil_iff]
    intro hnil
    exact hsome fun r hr => List.map_eq_nil_iff.1 (hnil r hr)
  have hblocks : (results.filter fun r => !r.messages.isEmpty).mapM stylishBlock =
      .ok ((results.filter fun r => !r.messages.isEmpty).map blockText) :=
    mapM_eq_ok_map fun r hr => stylishBlock_of_not_wide (h r (List.mem_filter.1 hr).1)
  rw [stylish, if_neg (by simpa using hproblems), hblocks]
  rfl

/-- A report that has blocks has a summary, so it is not empty. -/
theorem append_stylishSummary_ne (blocks : String) (s : Summary) :
    blocks ++ stylishSummary s ≠ "" := by
  intro h
  have hlength := congrArg String.length h
  have hmark : "✖ ".length = 2 := rfl
  have hempty : "".length = 0 := rfl
  simp only [stylishSummary, String.length_append] at hlength
  omega

/-- Where no message is too wide, the report has aligned columns. -/
theorem exists_aligned (h : ∀ r ∈ results, ∀ m ∈ r.messages, ¬ m.Wide) :
    ∃ report, stylish results = .ok report ∧ Aligned results report := by
  by_cases hnone : ∀ r ∈ results, r.messages = []
  · refine ⟨_, stylish_of_no_message hnone, iff_of_true rfl hnone, ?_⟩
    intro hne
    exact absurd rfl hne
  · have hne := append_stylishSummary_ne
      (String.join ((results.filter fun r => !r.messages.isEmpty).map blockText))
      (Summary.ofResults results)
    refine ⟨_, stylish_of_not_wide hnone h, iff_of_false hne hnone, fun _ => ⟨_, ?_, rfl⟩⟩
    rw [List.forall₂_map_right_iff, List.forall₂_same]
    intro r hr
    have hmessages := (List.mem_filter.1 hr).2
    exact isBlock_blockText (by simpa using hmessages)

/-! ### Bytes and characters -/

/-- The widths of the columns when positions and severities are measured in bytes. -/
def Widths.inBytes (messages : List Message) : Widths where
  position := messages.foldl (fun n m => max n (byteLength (positionText m).toList)) 0
  severity := messages.foldl (fun n m => max n (byteLength m.severity.name.toList)) 0
  text := widest (messages.map (·.text))

theorem byteLength_eq_length {cs : List Char} (h : ∀ c ∈ cs, c.utf8Size = 1) :
    byteLength cs = cs.length := by
  induction cs with
  | nil => rfl
  | cons c cs ih =>
    rw [List.forall_mem_cons] at h
    rw [byteLength_cons, h.1, ih h.2, List.length_cons, Nat.add_comm]

/-- A number is written in characters of one byte. -/
theorem utf8Size_of_mem_toString {n : Nat} {c : Char} (h : c ∈ (toString n).toList) :
    c.utf8Size = 1 := by
  rw [Nat.toString_eq_ofList_toDigits, String.toList_ofList] at h
  have hdigit := Nat.isDigit_of_mem_toDigits (by decide) (Nat.le_refl 10) h
  rw [Char.isDigit, Bool.and_eq_true, decide_eq_true_eq, decide_eq_true_eq] at hdigit
  have hle := UInt32.le_iff_toNat_le.1 hdigit.2
  exact utf8Size_eq_one (Nat.le_trans hle (by decide))

/-- A position has as many bytes as characters. -/
theorem byteLength_positionText (m : Message) :
    byteLength (positionText m).toList = (positionText m).length := by
  apply byteLength_eq_length
  intro c hc
  rw [positionText, String.toList_append, String.toList_append, List.mem_append,
    List.mem_append] at hc
  rcases hc with (hline | hcolon) | hcolumn
  · exact utf8Size_of_mem_toString hline
  · obtain rfl : c = ':' := by simpa using hcolon
    rfl
  · exact utf8Size_of_mem_toString hcolumn

/-- A severity has as many bytes as characters. -/
theorem byteLength_name (s : Severity) : byteLength s.name.toList = s.name.length := by
  cases s <;> rfl

/-- The widths are the same whether positions and severities are measured in bytes or not. -/
theorem Widths.inBytes_eq (messages : List Message) :
    Widths.inBytes messages = Widths.ofMessages messages := by
  simp only [inBytes, ofMessages, widest, List.foldl_map, byteLength_positionText, byteLength_name]

/-! ### The report -/

/-- There is no report of results with a message that is too wide. -/
theorem not_exists_report (hr : r ∈ results) (hm : m ∈ r.messages) (hwide : m.Wide) :
    ¬ ∃ report, stylish results = .ok report := by
  rintro ⟨report, hreport⟩
  obtain ⟨fault, hfault⟩ := exists_stylish_eq_error_iff.2 ⟨r, hr, m, hm, hwide⟩
  rw [hreport] at hfault
  cases hfault

/-- The report has aligned columns exactly if no message is too wide for one, whatever characters
the texts are of; otherwise there is none. It makes no difference that the widths of positions and
severities are measured in bytes and those of texts in characters. -/
theorem stylish_aligned_iff (results : List FileResult) :
    ((∃ report, stylish results = .ok report ∧ Aligned results report) ↔
      ∀ r ∈ results, ∀ m ∈ r.messages, ¬ m.Wide) ∧
    ((∃ fault, stylish results = .error fault) ↔ ∃ r ∈ results, ∃ m ∈ r.messages, m.Wide) ∧
    ∀ r ∈ results, Widths.inBytes r.messages = Widths.ofMessages r.messages := by
  refine ⟨⟨?_, exists_aligned⟩, exists_stylish_eq_error_iff, fun r _ => Widths.inBytes_eq _⟩
  rintro ⟨report, hreport, -⟩ r hr m hm hwide
  exact not_exists_report hr hm hwide ⟨report, hreport⟩

/-- A message that quotes a long word. -/
def longMessage : Message where
  ruleId := "no-doubled-word"
  text := String.ofList (List.replicate 65536 'a')
  line := 1
  column := 1
  severity := .error
  span := ⟨0, 65536⟩

/-- There is no report of a message whose text is longer than texts can be padded to. -/
theorem stylish_stops_at_long_text :
    ¬ ∃ report, stylish [⟨"t.txt", [longMessage]⟩] = .ok report ∧
      Aligned [⟨"t.txt", [longMessage]⟩] report := by
  have hwide : longMessage.Wide := by
    right
    rw [longMessage, String.length_ofList, List.length_replicate]
    decide
  rintro ⟨report, hreport, -⟩
  exact not_exists_report (List.mem_singleton_self (⟨"t.txt", [longMessage]⟩ : FileResult))
    (List.mem_singleton_self longMessage) hwide ⟨report, hreport⟩

end ProseLinter.Formatter
