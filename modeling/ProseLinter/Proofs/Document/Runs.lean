import Mathlib.Data.List.Pairwise
import ProseLinter.Document.Parser
import ProseLinter.Proofs.Document.Paragraph
import ProseLinter.Proofs.Text.Trim

/-!
# Paragraphs as runs of lines

The lines of a text are read once, and a paragraph is open from the first line that is not blank to
the next one that is. What is found so are the maximal runs of lines that are not blank.

* `PlainText.mem_paragraphsFrom_iff` : the paragraphs that are still to come are the runs that do
  not begin before the one that is open.
* `PlainText.mem_paragraphs_iff` and `PlainText.pairwise_paragraphs` : the paragraphs of a text, and
  their order.
* `PlainText.exists_slice?_of_mem_paragraphs` and `PlainText.exists_mem_paragraphs` : a paragraph is
  a part of the text, and every character that is not blank stands in one.
* `PlainText.document_of_runs` : the document of a text.
-/

namespace ProseLinter

namespace PlainText

open Text

variable {text : List Char} {line : List Char} {lines before run after rest : List (List Char)}
  {span : Span}

/-! ### Runs -/

/-- A line of blanks only. -/
def Blank (line : List Char) : Prop :=
  ∀ c ∈ line, isBlank c = true

/-- A character that may end a line. -/
def isLineEnd (c : Char) : Bool :=
  c == '\n' || c == '\r'

/-- Consecutive lines that are not blank, with a blank line or none at all on either side. -/
structure IsRun (lines before run after : List (List Char)) : Prop where
  lines_eq : lines = before ++ run ++ after
  ne_nil : run ≠ []
  not_blank : ∀ line ∈ run, ¬ Blank line
  blank_before : ∀ line ∈ before.getLast?, Blank line
  blank_after : ∀ line ∈ after.head?, Blank line

/-- The span of a run: from its first byte to where its last line stops, without the line feeds and
carriage returns at the end of that line. -/
structure IsSpanOf (before run : List (List Char)) (span : Span) : Prop where
  start_eq : span.start = byteLength before.flatten
  stop_eq : ∃ first content ending, run = first ++ [content ++ ending] ∧
    (∀ c ∈ ending, isLineEnd c = true) ∧ (∀ c ∈ content.getLast?, isLineEnd c = false) ∧
    span.stop = byteLength (before ++ first).flatten + byteLength content

/-- What ends a line is blank. -/
theorem isBlank_of_isLineEnd {c : Char} (h : isLineEnd c = true) : isBlank c = true := by
  rw [isLineEnd, Bool.or_eq_true, beq_iff_eq, beq_iff_eq] at h
  rcases h with rfl | rfl <;> rfl

/-- A line is blank if it is without its end. -/
theorem isBlankLine_withoutEnd_iff {start : Nat} :
    isBlankLine (withoutEnd ⟨start, line⟩) = true ↔ Blank line := by
  obtain ⟨ending, hline, hending, -⟩ := exists_eq_trimEndWhile_append isLineEnd line
  rw [isBlankLine, List.all_eq_true]
  constructor
  · intro h c hc
    rw [hline] at hc
    rcases List.mem_append.1 hc with hc | hc
    · exact h c hc
    · exact isBlank_of_isLineEnd (hending c hc)
  · intro h c hc
    apply h
    rw [hline]
    exact List.mem_append_left _ hc

/-- The span of the paragraph that is open after a run: none if the run has no line yet. -/
def runSpan? (before run : List (List Char)) : Option Span :=
  run.getLast?.map fun line =>
    ⟨byteLength before.flatten,
      byteLength (before ++ run.dropLast).flatten + byteLength (trimEndWhile isLineEnd line)⟩

theorem runSpan?_eq_some_iff : runSpan? before run = some span ↔ IsSpanOf before run span := by
  rw [runSpan?, Option.map_eq_some_iff]
  constructor
  · rintro ⟨line, hline, rfl⟩
    obtain ⟨ending, heq, hending, hcontent⟩ := exists_eq_trimEndWhile_append isLineEnd line
    obtain ⟨first, rfl⟩ := List.getLast?_eq_some_iff.1 hline
    refine ⟨rfl, first, _, ending, ?_, hending, hcontent, ?_⟩
    · rw [← heq]
    · rw [List.dropLast_concat]
  · rintro ⟨hstart, first, content, ending, rfl, hending, hcontent, hstop⟩
    have htrim : trimEndWhile isLineEnd (content ++ ending) = content :=
      trimEndWhile_eq_iff.2 ⟨ending, rfl, hending, hcontent⟩
    refine ⟨content ++ ending, List.getLast?_concat, ?_⟩
    rw [htrim, List.dropLast_concat, ← hstart, ← hstop]

theorem exists_isSpanOf (before : List (List Char)) (hne : run ≠ []) :
    ∃ span, IsSpanOf before run span := by
  have hlast := List.getLast?_eq_some_getLast hne
  exact ⟨_, runSpan?_eq_some_iff.1 (Option.map_eq_some_iff.2 ⟨_, hlast, rfl⟩)⟩

/-- The next line of a run opens a paragraph or goes on with the one that is open. -/
theorem runSpan?_concat (before run : List (List Char)) (line : List Char) :
    runSpan? before (run ++ [line]) =
      some (opens (runSpan? before run)
        (withoutEnd ⟨byteLength (before ++ run).flatten, line⟩)) := by
  rw [runSpan?, List.getLast?_concat, List.dropLast_concat, Option.map_some]
  cases run using List.reverseRecOn with
  | nil =>
    rw [List.append_nil]
    rfl
  | append_singleton run last =>
    rw [runSpan?, List.getLast?_concat]
    rfl

/-- Lines up to the next blank one are determined by the list of lines. -/
theorem eq_of_append_eq {run' rest' : List (List Char)} (h : run ++ rest = run' ++ rest')
    (hrun : ∀ line ∈ run, ¬ Blank line) (hrun' : ∀ line ∈ run', ¬ Blank line)
    (hrest : ∀ line ∈ rest.head?, Blank line) (hrest' : ∀ line ∈ rest'.head?, Blank line) :
    run = run' := by
  -- If one of them went on, the line behind the other would be both blank and not.
  rcases List.append_eq_append_iff.1 h with ⟨more, rfl, rfl⟩ | ⟨more, rfl, rfl⟩
  · cases more with
    | nil => rw [List.append_nil]
    | cons line more =>
      exact absurd (hrest line rfl) (hrun' line (List.mem_append_right _ List.mem_cons_self))
  · cases more with
    | nil => rw [List.append_nil]
    | cons line more =>
      exact absurd (hrest' line rfl) (hrun line (List.mem_append_right _ List.mem_cons_self))

/-- A run that does not begin before the lines of an unfinished one is that run up to the next blank
line, or begins behind the blank line. -/
theorem IsRun.eq_or_lt {before' run' : List (List Char)}
    (h : IsRun (before ++ run ++ rest) before' run' after) (hle : before.length ≤ before'.length)
    (hrun : ∀ line ∈ run, ¬ Blank line) (hrest : ∀ line ∈ rest.head?, Blank line) :
    before' = before ∧ run' = run ∨ (before ++ run).length < before'.length := by
  have heq := h.lines_eq
  rw [List.append_assoc, List.append_assoc] at heq
  obtain ⟨between, rfl, hbetween⟩ : ∃ between, before' = before ++ between ∧
      run ++ rest = between ++ (run' ++ after) := by
    rcases List.append_eq_append_iff.1 heq with h | ⟨more, rfl, hmore⟩
    · exact h
    · rw [List.length_append] at hle
      obtain rfl : more = [] := List.eq_nil_of_length_eq_zero (by omega)
      exact ⟨[], by simp, by simpa using hmore.symm⟩
  cases between using List.reverseRecOn with
  | nil =>
    rw [List.nil_append] at hbetween
    have hsame := eq_of_append_eq hbetween hrun h.not_blank hrest h.blank_after
    exact .inl ⟨List.append_nil before, hsame.symm⟩
  | append_singleton between line =>
    -- The line before the other run is blank, so it is not among the lines of the unfinished one.
    have hblank : Blank line := h.blank_before line (by simp)
    refine .inr ?_
    rw [List.append_assoc] at hbetween
    rcases List.append_eq_append_iff.1 hbetween with ⟨more, rfl, -⟩ | ⟨more, rfl, hmore⟩
    · simp only [List.length_append, List.length_singleton]
      omega
    · cases more with
      | nil => simp
      | cons first more =>
        obtain rfl : line = first := by simpa using congrArg List.head? hmore
        exact absurd hblank (hrun line (List.mem_append_right _ List.mem_cons_self))

/-- The runs that do not begin before the lines of an unfinished one, when no other line goes on
with it: that one, and those behind the blank line. -/
theorem exists_isRun_iff (hrun : ∀ line ∈ run, ¬ Blank line)
    (hbefore : ∀ line ∈ before.getLast?, Blank line) (hrest : ∀ line ∈ rest.head?, Blank line) :
    (∃ before' run' after', IsRun (before ++ run ++ rest) before' run' after' ∧
        before.length ≤ before'.length ∧ IsSpanOf before' run' span) ↔
      runSpan? before run = some span ∨
        ∃ before' run' after', IsRun (before ++ run ++ rest) before' run' after' ∧
          (before ++ run).length < before'.length ∧ IsSpanOf before' run' span := by
  constructor
  · rintro ⟨before', run', after', hisRun, hle, hspan⟩
    rcases hisRun.eq_or_lt hle hrun hrest with ⟨rfl, rfl⟩ | hlt
    · exact .inl (runSpan?_eq_some_iff.2 hspan)
    · exact .inr ⟨before', run', after', hisRun, hlt, hspan⟩
  · rintro (hopen | ⟨before', run', after', hisRun, hlt, hspan⟩)
    · have hspan := runSpan?_eq_some_iff.1 hopen
      have hne : run ≠ [] := by
        rintro rfl
        cases hopen
      exact ⟨before, run, rest, ⟨rfl, hne, hrun, hbefore, hrest⟩, Nat.le_refl _, hspan⟩
    · rw [List.length_append] at hlt
      exact ⟨before', run', after', hisRun, by omega, hspan⟩

/-- The paragraphs that are still to come, when one is open after the lines of `run`, are the runs
that do not begin before it. -/
theorem mem_paragraphsFrom_iff (before run rest : List (List Char))
    (hrun : ∀ line ∈ run, ¬ Blank line) (hbefore : ∀ line ∈ before.getLast?, Blank line)
    (span : Span) :
    span ∈ paragraphsFrom [] (runSpan? before run)
        ((placed (byteLength (before ++ run).flatten) rest).map withoutEnd) ↔
      ∃ before' run' after', IsRun (before ++ run ++ rest) before' run' after' ∧
        before.length ≤ before'.length ∧ IsSpanOf before' run' span := by
  induction rest generalizing before run with
  | nil =>
    rw [exists_isRun_iff hrun hbefore (by simp)]
    constructor
    · -- No line is left, so only the paragraph that is open is to come.
      intro hspan
      exact .inl (by simpa [placed, paragraphsFrom, eq_comm] using hspan)
    · rintro (hopen | ⟨before', run', after', hisRun, hlt, -⟩)
      · simp [placed, paragraphsFrom, hopen]
      · have hlength := congrArg List.length hisRun.lines_eq
        simp only [List.length_append, List.length_nil] at hlength hlt
        omega
  | cons line rest ih =>
    by_cases hline : Blank line
    · -- The run ends here, and the next one begins behind the blank line.
      have hnext : byteLength (before ++ run).flatten + byteLength line =
          byteLength (before ++ run ++ [line] ++ []).flatten := by
        simp [Nat.add_assoc]
      have hlines : before ++ run ++ [line] ++ [] ++ rest = before ++ run ++ line :: rest := by
        simp
      have hlength : (before ++ run ++ [line]).length = (before ++ run).length + 1 :=
        List.length_append
      have hrest := ih (before ++ run ++ [line]) [] (by simp) (by simpa using hline)
      rw [hlines, hlength] at hrest
      rw [placed, List.map_cons, paragraphsFrom_of_blank (isBlankLine_withoutEnd_iff.2 hline),
        paragraphsFrom_done, hnext, exists_isRun_iff hrun hbefore (by simpa using hline),
        List.mem_append]
      exact or_congr (by simp [eq_comm]) hrest
    · -- The line goes on with the run, so nothing is decided yet.
      have hnot : isBlankLine (withoutEnd ⟨byteLength (before ++ run).flatten, line⟩) = false :=
        Bool.eq_false_iff.2 fun h => hline (isBlankLine_withoutEnd_iff.1 h)
      have hnext : byteLength (before ++ run).flatten + byteLength line =
          byteLength (before ++ (run ++ [line])).flatten := by
        simp [Nat.add_assoc]
      have hrun' : ∀ l ∈ run ++ [line], ¬ Blank l := by
        intro l hl
        rcases List.mem_append.1 hl with hl | hl
        · exact hrun l hl
        · exact List.mem_singleton.1 hl ▸ hline
      have hrest := ih before (run ++ [line]) hrun' hbefore
      rw [placed, List.map_cons, paragraphsFrom_of_not_blank hnot, ← runSpan?_concat, hnext, hrest]
      simp only [List.append_assoc, List.singleton_append]

/-- The lines of a text as they stand in it, each with its end. -/
def fullLines (text : List Char) : List (List Char) :=
  parts (· == '\n') text

/-- The paragraphs of a text are its runs of lines that are not blank. -/
theorem mem_paragraphs_iff :
    span ∈ paragraphs text ↔
      ∃ before run after, IsRun (fullLines text) before run after ∧ IsSpanOf before run span := by
  have h := mem_paragraphsFrom_iff [] [] (fullLines text) (by simp) (by simp) span
  have hstart : runSpan? [] [] = none := rfl
  rw [paragraphs, PlainText.lines, pieces_eq_placed]
  simpa [hstart, fullLines] using h

/-! ### Order -/

/-- A line without its end stops no later than the line. -/
theorem byteLength_withoutEnd_le (p : Piece) :
    byteLength (withoutEnd p).chars ≤ byteLength p.chars := by
  have h := congrArg byteLength (trimEndWhile_append isLineEnd p.chars)
  rw [byteLength_append] at h
  exact Nat.le.intro h

/-- The paragraphs that are still to come begin no earlier than the one that is open and the next
line do. -/
theorem le_start_of_mem_paragraphsFrom {bound offset : Nat} {opened? : Option Span}
    (hoffset : bound ≤ offset) (hopened : ∀ s ∈ opened?, bound ≤ s.start) :
    ∀ s ∈ paragraphsFrom [] opened? ((placed offset lines).map withoutEnd), bound ≤ s.start := by
  induction lines generalizing offset opened? with
  | nil => simpa [placed, paragraphsFrom] using hopened
  | cons line lines ih =>
    intro s hs
    rw [placed, List.map_cons] at hs
    cases hline : isBlankLine (withoutEnd ⟨offset, line⟩) with
    | true =>
      rw [paragraphsFrom_of_blank hline, paragraphsFrom_done] at hs
      rcases List.mem_append.1 hs with hs | hs
      · exact hopened s (by simpa using hs)
      · exact ih (Nat.le_add_right_of_le hoffset) (by simp) s hs
    | false =>
      rw [paragraphsFrom_of_not_blank hline] at hs
      refine ih (Nat.le_add_right_of_le hoffset) ?_ s hs
      intro s hs
      obtain rfl := Option.some.inj hs
      cases opened? with
      | none => exact hoffset
      | some span => exact hopened span rfl

/-- Paragraphs stop before the blank line behind them, and the next one begins behind it. -/
theorem pairwise_paragraphsFrom {offset : Nat} {opened? : Option Span}
    (hlines : ∀ line ∈ lines, line ≠ []) (hopened : ∀ s ∈ opened?, s.stop ≤ offset) :
    (paragraphsFrom [] opened? ((placed offset lines).map withoutEnd)).Pairwise
      (·.stop < ·.start) := by
  induction lines generalizing offset opened? with
  | nil => cases opened? <;> simp [placed, paragraphsFrom]
  | cons line lines ih =>
    rw [List.forall_mem_cons] at hlines
    rw [placed, List.map_cons]
    cases hline : isBlankLine (withoutEnd ⟨offset, line⟩) with
    | true =>
      rw [paragraphsFrom_of_blank hline, paragraphsFrom_done, List.pairwise_append]
      refine ⟨by cases opened? <;> simp, ih hlines.2 (by simp), ?_⟩
      intro s hs t ht
      have hstop := hopened s (by simpa using hs)
      have hstart := le_start_of_mem_paragraphsFrom (Nat.le_refl _) (by simp) t ht
      -- The blank line has a character at least.
      have hpos : byteLength line ≠ 0 := fun h => hlines.1 (byteLength_eq_zero.1 h)
      omega
    | false =>
      rw [paragraphsFrom_of_not_blank hline]
      apply ih hlines.2
      intro s hs
      obtain rfl := Option.some.inj hs
      exact Nat.add_le_add_left (byteLength_withoutEnd_le ⟨offset, line⟩) offset

/-- Paragraphs do not touch each other. -/
theorem pairwise_paragraphs (text : List Char) :
    (paragraphs text).Pairwise (·.stop < ·.start) := by
  rw [paragraphs, PlainText.lines, pieces_eq_placed]
  apply pairwise_paragraphsFrom
  · intro line hline
    obtain ⟨p, hp, rfl⟩ := List.mem_map.1 hline
    exact chars_ne_nil_of_mem_pieces hp
  · simp

/-! ### What a paragraph holds -/

/-- The span of a run covers its lines joined, without the line ends behind the last one, and there
is a character in it. -/
theorem IsRun.exists_content (h : IsRun lines before run after) (hspan : IsSpanOf before run span) :
    ∃ content ending, run.flatten = content ++ ending ∧ content ≠ [] ∧
      (∀ c ∈ ending, isLineEnd c = true) ∧
      span = ⟨byteLength before.flatten, byteLength before.flatten + byteLength content⟩ := by
  obtain ⟨start, stop⟩ := span
  obtain ⟨rfl, first, content, ending, rfl, hending, -, rfl⟩ := hspan
  refine ⟨first.flatten ++ content, ending, by simp, ?_, hending, ?_⟩
  · -- A last line of line ends only would be blank.
    intro hnil
    obtain rfl := (List.append_eq_nil_iff.1 hnil).2
    apply h.not_blank ([] ++ ending) (List.mem_append_right _ (List.mem_singleton_self _))
    intro c hc
    exact isBlank_of_isLineEnd (hending c hc)
  · rw [List.flatten_append, byteLength_append, byteLength_append, Nat.add_assoc]

/-- A paragraph is a part of the text, and holds a byte at least. -/
theorem exists_slice?_of_mem_paragraphs (h : span ∈ paragraphs text) :
    span.start < span.stop ∧ ∃ content, slice? text span.start span.stop = some content := by
  obtain ⟨before, run, after, hrun, hspan⟩ := mem_paragraphs_iff.1 h
  obtain ⟨content, ending, hcontent, hne, -, rfl⟩ := hrun.exists_content hspan
  have htext : text = before.flatten ++ content ++ (ending ++ after.flatten) := by
    have hflatten := flatten_parts (· == '\n') text
    change (fullLines text).flatten = text at hflatten
    rw [← hflatten, hrun.lines_eq, List.flatten_append, List.flatten_append, hcontent]
    simp only [List.append_assoc]
  have hpos : byteLength content ≠ 0 := fun h => hne (byteLength_eq_zero.1 h)
  refine ⟨Nat.lt_add_of_pos_right (Nat.pos_of_ne_zero hpos), content, ?_⟩
  rw [htext]
  exact slice?_append ..

/-- Lines up to the next blank one. -/
theorem exists_run_append (lines : List (List Char)) :
    ∃ run after, lines = run ++ after ∧ (∀ line ∈ run, ¬ Blank line) ∧
      ∀ line ∈ after.head?, Blank line := by
  induction lines with
  | nil => exact ⟨[], [], rfl, by simp, by simp⟩
  | cons line lines ih =>
    by_cases hline : Blank line
    · exact ⟨[], line :: lines, rfl, by simp, by simpa using hline⟩
    · obtain ⟨run, after, rfl, hrun, hafter⟩ := ih
      exact ⟨line :: run, after, rfl, List.forall_mem_cons.2 ⟨hline, hrun⟩, hafter⟩

/-- Lines from behind the last blank one. -/
theorem exists_append_run (lines : List (List Char)) :
    ∃ before run, lines = before ++ run ∧ (∀ line ∈ run, ¬ Blank line) ∧
      ∀ line ∈ before.getLast?, Blank line := by
  obtain ⟨run, after, hlines, hrun, hafter⟩ := exists_run_append lines.reverse
  refine ⟨after.reverse, run.reverse, ?_, ?_, ?_⟩
  · rw [← List.reverse_append, ← hlines, List.reverse_reverse]
  · intro line hline
    exact hrun line (List.mem_reverse.1 hline)
  · rwa [List.getLast?_reverse]

/-- A line that is not blank belongs to a run. -/
theorem exists_isRun (earlier later : List (List Char)) (hline : ¬ Blank line) :
    ∃ before first last after, earlier = before ++ first ∧
      IsRun (earlier ++ line :: later) before (first ++ line :: last) after := by
  obtain ⟨before, first, rfl, hfirst, hbefore⟩ := exists_append_run earlier
  obtain ⟨last, after, rfl, hlast, hafter⟩ := exists_run_append later
  refine ⟨before, first, last, after, rfl, by simp, by simp, ?_, hbefore, hafter⟩
  intro l hl
  rw [List.mem_append, List.mem_cons] at hl
  rcases hl with hl | rfl | hl
  · exact hfirst l hl
  · exact hline
  · exact hlast l hl

/-- A character that is not blank stands in a paragraph. -/
theorem exists_mem_paragraphs {c : Char} {front back : List Char}
    (htext : text = front ++ c :: back) (hc : isBlank c = false) :
    ∃ span ∈ paragraphs text,
      span.start ≤ byteLength front ∧ byteLength front + c.utf8Size ≤ span.stop := by
  have hflatten := flatten_parts (· == '\n') text
  obtain ⟨earlier, left, right, later, hlines, rfl⟩ :=
    exists_of_flatten_eq (hflatten.trans htext)
  have hline : ¬ Blank (left ++ c :: right) := by
    intro h
    simp [h c (List.mem_append_right _ List.mem_cons_self)] at hc
  obtain ⟨before, first, last, after, rfl, hrun⟩ := exists_isRun earlier later hline
  rw [← hlines] at hrun
  obtain ⟨span, hspan⟩ := exists_isSpanOf before hrun.ne_nil
  refine ⟨span, mem_paragraphs_iff.2 ⟨before, _, after, hrun, hspan⟩, ?_⟩
  obtain ⟨content, ending, hcontent, -, hending, rfl⟩ := hrun.exists_content hspan
  -- The character is no line end, so it is not among those behind the last line.
  have hnot : c ∉ ending := by
    intro hmem
    rw [isBlank_of_isLineEnd (hending c hmem)] at hc
    cases hc
  rw [List.flatten_append, List.flatten_cons, List.append_assoc, List.cons_append,
    ← List.append_assoc] at hcontent
  obtain ⟨between, rfl⟩ := exists_eq_append_cons hcontent hnot
  simp only [List.flatten_append, byteLength_append, byteLength_cons]
  omega

/-! ### The document -/

/-- The literal in the paragraph with a span. -/
def literalNode (text : List Char) (span : Span) : Node :=
  .literal .str span (String.ofList ((slice? text span.start span.stop).getD []))

/-- The literals in the document of a text are those of its paragraphs. -/
theorem ofType_str_parse (text : List Char) :
    (parse text).ofType .str = (paragraphs text).map (literalNode text) := by
  have hparagraph (span : Span) :
      (paragraphNode text span).walk.filter (·.type == .str) = [literalNode text span] := rfl
  have hroot : ((parse text).type == .str) = false := rfl
  rw [Node.ofType, walk_parse, List.filter_cons_of_neg (by simp [hroot]), List.filter_flatMap]
  simp only [hparagraph]
  exact List.map_eq_flatMap.symm

/-- What the document of a plain text with these lines is like. -/
structure IsDocumentOf (text : List Char) (lines : List (List Char)) (document : Node) : Prop where
  type_eq : document.type = .document
  span_eq : document.span = ⟨0, byteLength text⟩
  /-- The spans of the paragraphs are those of the runs. -/
  runs : ∀ span, span ∈ document.children.map (·.span) ↔
    ∃ before run after, IsRun lines before run after ∧ IsSpanOf before run span
  ordered : (document.children.map (·.span)).Pairwise (·.stop < ·.start)
  /-- A paragraph has one child, the literal that the text has there. -/
  paragraph : ∀ p ∈ document.children, p.type = .paragraph ∧ p.span.start < p.span.stop ∧
    ∃ literal content, p.children = [literal] ∧ literal.type = .str ∧ literal.children = [] ∧
      literal.span = p.span ∧ slice? text p.span.start p.span.stop = some content ∧
      literal.raw text = content ∧ literal.value = some (String.ofList content)
  /-- A character that is not blank is in one literal. -/
  covered : ∀ front c back, text = front ++ c :: back → isBlank c = false →
    ∃! literal, literal ∈ document.ofType .str ∧ literal.span.start ≤ byteLength front ∧
      byteLength front + c.utf8Size ≤ literal.span.stop

/-- Two paragraphs with a byte in common are one. -/
theorem eq_of_mem_paragraphs {s t : Span} {offset : Nat} (hs : s ∈ paragraphs text)
    (ht : t ∈ paragraphs text) (hin : s.start ≤ offset ∧ offset < s.stop)
    (hin' : t.start ≤ offset ∧ offset < t.stop) : s = t := by
  have happart : (paragraphs text).Pairwise fun a b => a.stop < b.start ∨ b.stop < a.start :=
    (pairwise_paragraphs text).imp .inl
  have : Std.Symm fun a b : Span => a.stop < b.start ∨ b.stop < a.start := ⟨fun _ _ => Or.symm⟩
  by_cases heq : s = t
  · exact heq
  · have := happart.forall hs ht heq
    omega

theorem isDocumentOf_parse (text : List Char) :
    IsDocumentOf text (fullLines text) (parse text) := by
  have hspans : (parse text).children.map (·.span) = paragraphs text := by
    change ((paragraphs text).map (paragraphNode text)).map (·.span) = paragraphs text
    rw [List.map_map]
    exact List.map_id _
  constructor
  case type_eq => rfl
  case span_eq => rfl
  case runs =>
    intro span
    rw [hspans]
    exact mem_paragraphs_iff
  case ordered =>
    rw [hspans]
    exact pairwise_paragraphs text
  case paragraph =>
    intro p hp
    obtain ⟨span, hspan, rfl⟩ := List.mem_map.1 hp
    obtain ⟨hlt, content, hcontent⟩ := exists_slice?_of_mem_paragraphs hspan
    have hraw : (slice? text span.start span.stop).getD [] = content := by rw [hcontent]; rfl
    exact ⟨rfl, hlt, literalNode text span, content, rfl, rfl, rfl, rfl, hcontent, hraw,
      congrArg (some ∘ String.ofList) hraw⟩
  case covered =>
    intro front c back htext hc
    obtain ⟨span, hspan, hstart, hstop⟩ := exists_mem_paragraphs htext hc
    have hpos := c.utf8Size_pos
    rw [ofType_str_parse]
    refine ⟨literalNode text span, ⟨List.mem_map_of_mem hspan, hstart, hstop⟩, ?_⟩
    rintro literal ⟨hliteral, hstart', hstop'⟩
    obtain ⟨other, hother, rfl⟩ := List.mem_map.1 hliteral
    change other.start ≤ _ at hstart'
    change _ ≤ other.stop at hstop'
    rw [eq_of_mem_paragraphs hother hspan ⟨hstart', by omega⟩ ⟨hstart, by omega⟩]

/-- A text that is not too long has a document, whose paragraphs are the maximal runs of lines that
are not blank; the lines are cut behind the newlines. -/
theorem document_of_runs (text : List Char) :
    Parser.plainText.parse text =
        (if byteLength text < Span.limit then .ok (parse text)
          else .error (.tooLarge (byteLength text))) ∧
      IsCut (· == '\n') text (fullLines text) ∧
      IsDocumentOf text (fullLines text) (parse text) := by
  refine ⟨?_, isCut_parts _ text, isDocumentOf_parse text⟩
  change (if Span.limit ≤ byteLength text then _ else _) = _
  rcases Nat.lt_or_ge (byteLength text) Span.limit with hlt | hge
  · rw [if_neg (Nat.not_le.2 hlt), if_pos hlt]
  · rw [if_pos hge, if_neg (Nat.not_lt.2 hge)]

end PlainText

end ProseLinter
