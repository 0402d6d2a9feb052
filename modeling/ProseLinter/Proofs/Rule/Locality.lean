import Mathlib.Data.List.Basic
import ProseLinter.Document.Parser
import ProseLinter.Proofs.Document.Paragraph
import ProseLinter.Proofs.Document.PositionLimit
import ProseLinter.Proofs.Rule.Search

/-!
# Rules on plain texts

A rule looks at the paragraphs of a plain text one by one, so it finds in two texts with a blank
line between what it finds in each of them.

* `PlainText.scan_parse` : a scan of a plain text searches its paragraphs.
* `PlainText.findings_append` : the findings in two texts with a blank line between.
* `plain_texts_linted_apart` : so the messages of the rules are those for each text, the second ones
  moved.
-/

namespace ProseLinter

open Text

/-- The finding for a match in the part of the source with a span. -/
def Match.findingAt (m : Match) (span : Span) : Finding :=
  ⟨span.part m.start (byteLength m.chars), m.text, m.severity⟩

/-- The finding so many bytes later. -/
def Finding.shift (f : Finding) (bytes : Nat) : Finding :=
  { f with span := f.span.shift bytes }

/-- The message so many bytes and lines later. -/
def Message.moved (m : Message) (bytes lines : Nat) : Message :=
  { m with line := m.line + lines, span := m.span.shift bytes }

/-- The context for a document of a text. -/
def Rule.Context.on (c : Context) (text : List Char) (document : Node) : Context :=
  { c with document, source := text, lines := .ofText text }

/-- What a rule has to say of a plain text: its messages, and why it failed if it did. -/
def Rule.runOn (rule : Rule) (c : Context) (text : List Char) :
    Except ParseError (List Message × Option RuleError) := do
  let document ← Parser.plainText.parse text
  let report := rule.check (c.on text document)
  return (report.messages (c.on text document), report.failure)

namespace PlainText

variable {search : List Char → List Match}

/-- The findings of a search in the paragraphs of a text. -/
def findings (search : List Char → List Match) (text : List Char) : List Finding :=
  (paragraphs text).flatMap fun span =>
    (search ((slice? text span.start span.stop).getD [])).map (·.findingAt span)

/-- The nodes of these types in a plain text have the spans of its paragraphs. -/
theorem span_ofType_parse {type : NodeType} (h : type = .str ∨ type = .paragraph)
    (text : List Char) : ((parse text).ofType type).map (·.span) = paragraphs text := by
  have hroot : ((parse text).type == type) = false := by rcases h with rfl | rfl <;> rfl
  have hparagraph (span : Span) :
      ((paragraphNode text span).walk.filter (·.type == type)).map (·.span) = [span] := by
    rcases h with rfl | rfl <;> rfl
  rw [Node.ofType, walk_parse, List.filter_cons_of_neg (by simp [hroot]), List.filter_flatMap,
    List.map_flatMap]
  simp only [hparagraph, List.flatMap_singleton']

/-- A scan of a plain text searches its paragraphs. -/
theorem scan_parse {type : NodeType} (h : type = .str ∨ type = .paragraph) (c : Rule.Context)
    (text : List Char) :
    (c.on text (parse text)).scan type search = findings search text := by
  rw [findings, ← span_ofType_parse h, List.flatMap_map]
  rfl

/-- The findings in two texts with a blank line between: those in the first, and those in the second
behind it. -/
theorem findings_append (a b : List Char) :
    findings search (a ++ ['\n', '\n'] ++ b) =
      findings search a ++ (findings search b).map (·.shift (byteLength (a ++ ['\n', '\n']))) := by
  have hfirst : ∀ span ∈ paragraphs a, slice? (a ++ ['\n', '\n'] ++ b) span.start span.stop =
      slice? a span.start span.stop := by
    intro span hspan
    rw [List.append_assoc]
    exact slice?_append_of_le (le_of_mem_paragraphs hspan).2 _
  have hsecond (span : Span) :
      slice? (a ++ ['\n', '\n'] ++ b) (span.shift (byteLength (a ++ ['\n', '\n']))).start
          (span.shift (byteLength (a ++ ['\n', '\n']))).stop =
        slice? b span.start span.stop := slice?_shift _
  have hfinding (span : Span) (m : Match) :
      m.findingAt (span.shift (byteLength (a ++ ['\n', '\n']))) =
        (m.findingAt span).shift (byteLength (a ++ ['\n', '\n'])) := by
    simp only [Match.findingAt, Finding.shift, Span.part, Span.shift, Finding.mk.injEq,
      Span.mk.injEq, and_true]
    omega
  rw [findings, paragraphs_append, List.flatMap_append]
  -- Each paragraph holds the same characters as in its own text, so the search matches the same.
  congr 1
  · exact List.flatMap_congr fun span hspan => by rw [hfirst span hspan]
  · rw [List.flatMap_map, findings, List.map_flatMap]
    refine List.flatMap_congr fun span _ => ?_
    rw [List.map_map, hsecond]
    exact List.map_congr_left fun m _ => hfinding span m

/-- Findings of matches in the text do not begin past its end. -/
theorem start_le_of_mem_findings {text : List Char}
    (hreads : ∀ part, ∀ m ∈ search part, m.ReadsIn part) {f : Finding}
    (hf : f ∈ findings search text) : f.span.start ≤ byteLength text := by
  obtain ⟨span, hspan, hfound⟩ := List.mem_flatMap.1 hf
  obtain ⟨m, hm, rfl⟩ := List.mem_map.1 hfound
  have hend := stop_le_of_slice? (hreads _ m hm)
  obtain ⟨hstart, hstop⟩ := le_of_mem_paragraphs hspan
  have hfinding : (m.findingAt span).span.start = span.start + m.start := rfl
  -- Where the span does not fit the text there is nothing to search but the empty text.
  cases hpart : slice? text span.start span.stop with
  | none =>
    rw [hpart, Option.getD_none, byteLength_nil] at hend
    omega
  | some part =>
    rw [hpart, Option.getD_some] at hend
    have hlength := stop_of_slice? hpart
    omega

/-- Something is found only in a text that has other characters than newlines. -/
theorem exists_ne_newline_of_mem_findings {text : List Char} {f : Finding}
    (hf : f ∈ findings search text) : ∃ c ∈ text, c ≠ '\n' := by
  by_contra h
  push Not at h
  rw [findings, paragraphs_of_newlines h] at hf
  cases hf

end PlainText

/-! ### Messages -/

variable {c : Rule.Context} {rule : Rule} {search : List Char → List Match}

/-- What follows a text does not change the messages for findings in it. -/
theorem Rule.Context.message_append_of_le {f : Finding} {text : List Char}
    (h : f.span.start ≤ byteLength text) (rest : List Char) (document document' : Node) :
    (c.on (text ++ rest) document').message f = (c.on text document).message f := by
  simp only [message, on, LineIndex.position_append_of_le h]

/-- What stands before a text moves the messages for findings in it. -/
theorem Rule.Context.message_shift {f : Finding} {text rest : List Char}
    (hlength : byteLength (text ++ ['\n', '\n'] ++ rest) < Span.limit)
    (hchar : ∃ c ∈ rest, c ≠ '\n') (hstart : f.span.start ≤ byteLength rest)
    (document document' : Node) :
    (c.on (text ++ ['\n', '\n'] ++ rest) document').message
        (f.shift (byteLength (text ++ ['\n', '\n']))) =
      ((c.on rest document).message f).moved (byteLength (text ++ ['\n', '\n']))
        ((text ++ ['\n', '\n']).count '\n') := by
  have htext : text ++ ['\n', '\n'] ++ rest = text ++ ['\n'] ++ '\n' :: rest := by simp
  rw [htext] at hlength
  have hposition := LineIndex.position_append_newline hlength hchar hstart
  simp only [List.append_assoc, List.cons_append, List.nil_append] at hposition
  simp only [message, on, Message.moved, Finding.shift, Span.shift, List.append_assoc,
    List.cons_append, List.nil_append, hposition]

/-- The messages for what a search finds in a text. -/
def Rule.Context.messagesIn (c : Context) (search : List Char → List Match) (text : List Char) :
    List Message :=
  (PlainText.findings search text).map (c.on text (PlainText.parse text)).message

/-- The messages for what a search finds in two texts with a blank line between. -/
theorem Rule.Context.messagesIn_append (c : Context)
    (hreads : ∀ part, ∀ m ∈ search part, m.ReadsIn part) {a b : List Char}
    (hlength : byteLength (a ++ ['\n', '\n'] ++ b) < Span.limit) :
    c.messagesIn search (a ++ ['\n', '\n'] ++ b) =
      c.messagesIn search a ++
        (c.messagesIn search b).map (·.moved (byteLength a + 2) (a.count '\n' + 2)) := by
  have hbytes : byteLength (a ++ ['\n', '\n']) = byteLength a + 2 := byteLength_append ..
  have hlines : (a ++ ['\n', '\n']).count '\n' = a.count '\n' + 2 := List.count_append
  rw [messagesIn, PlainText.findings_append, List.map_append, List.map_map, messagesIn, messagesIn,
    List.map_map]
  congr 1
  · refine List.map_congr_left fun f hf => ?_
    rw [List.append_assoc]
    exact message_append_of_le (PlainText.start_le_of_mem_findings hreads hf) _ _ _
  · refine List.map_congr_left fun f hf => ?_
    have hshift := message_shift (c := c) hlength
      (PlainText.exists_ne_newline_of_mem_findings hf)
      (PlainText.start_le_of_mem_findings hreads hf) (PlainText.parse b)
      (PlainText.parse (a ++ ['\n', '\n'] ++ b))
    rw [hlines, hbytes] at hshift
    rw [Function.comp_apply, hbytes]
    exact hshift

/-- A rule that fails for every text, or searches the nodes of a type for what stands in them; which
of both and how depends on its options only. -/
inductive Rule.ScansOrFails (rule : Rule) (c : Context) : Prop
  | fails (e : RuleError)
      (h : ∀ text document, rule.check (c.on text document) = .ofExcept (.error e))
  | scans (type : NodeType) (search : List Char → List Match)
      (htype : type = .str ∨ type = .paragraph)
      (hreads : ∀ part, ∀ m ∈ search part, m.ReadsIn part)
      (h : ∀ text document, rule.check (c.on text document) =
        .ofExcept (.ok ((c.on text document).scan type search)))

theorem NoTodo.scansOrFails (c : Rule.Context) : NoTodo.rule.ScansOrFails c := by
  cases ho : c.readOptions {} Options.decode with
  | error e =>
    exact .fails e fun _ _ => congrArg Rule.Report.ofExcept (check_of_readOptions_error ho)
  | ok o =>
    exact .scans .str (NoTodo.search o) (.inl rfl) (fun _ _ hm => (readsIn_of_mem_search hm).1)
      fun _ _ => congrArg Rule.Report.ofExcept (check_of_readOptions ho)

theorem SentenceLength.scansOrFails (c : Rule.Context) : SentenceLength.rule.ScansOrFails c := by
  cases ho : c.readOptions {} Options.decode with
  | error e =>
    exact .fails e fun _ _ => congrArg Rule.Report.ofExcept (check_of_readOptions_error ho)
  | ok o =>
    have hcheck (text : List Char) (document : Node) := check_of_readOptions
      (c := c.on text document) ho
    by_cases hmax : o.max = 0
    · simp only [if_pos hmax] at hcheck
      exact .fails (.invalidOptions c.ruleId "`max` must be greater than zero")
        fun text document => congrArg Rule.Report.ofExcept (hcheck text document)
    · simp only [if_neg hmax] at hcheck
      exact .scans .paragraph (SentenceLength.search o.max) (.inr rfl)
        (fun _ _ hm => (readsIn_of_mem_search hm).1)
        fun text document => congrArg Rule.Report.ofExcept (hcheck text document)

theorem NoDoubledWord.scansOrFails (c : Rule.Context) : NoDoubledWord.rule.ScansOrFails c :=
  .scans .str NoDoubledWord.search (.inl rfl) (fun _ _ hm => (readsIn_of_mem_search hm).1)
    fun _ _ => rfl

/-- What a rule has to say of a text that is not too long. -/
theorem Rule.runOn_of_lt {text : List Char} (h : byteLength text < Span.limit) :
    rule.runOn c text =
      .ok ((rule.check (c.on text (PlainText.parse text))).messages
          (c.on text (PlainText.parse text)),
        (rule.check (c.on text (PlainText.parse text))).failure) := by
  have hparse : Parser.plainText.parse text = .ok (PlainText.parse text) :=
    if_neg (Nat.not_le.2 h)
  rw [runOn, hparse]
  rfl

/-- A rule finds in two texts with a blank line between what it finds in each of them. -/
theorem Rule.ScansOrFails.runOn_append (h : rule.ScansOrFails c) {a b : List Char}
    (hlength : byteLength (a ++ ['\n', '\n'] ++ b) < Span.limit) :
    ∃ first second failure,
      rule.runOn c a = .ok (first, failure) ∧
      rule.runOn c b = .ok (second, failure) ∧
      rule.runOn c (a ++ ['\n', '\n'] ++ b) =
        .ok (first ++ second.map (·.moved (byteLength a + 2) (a.count '\n' + 2)), failure) := by
  have hlengths : byteLength a < Span.limit ∧ byteLength b < Span.limit := by
    rw [byteLength_append, byteLength_append] at hlength
    omega
  rw [runOn_of_lt hlengths.1, runOn_of_lt hlengths.2, runOn_of_lt hlength]
  cases h with
  | fails e h => refine ⟨[], [], some e, ?_, ?_, ?_⟩ <;> rw [h] <;> rfl
  | scans type search htype hreads h =>
    refine ⟨c.messagesIn search a, c.messagesIn search b, none, ?_, ?_, ?_⟩
    · rw [h, PlainText.scan_parse htype]
      rfl
    · rw [h, PlainText.scan_parse htype]
      rfl
    · rw [h, PlainText.scan_parse htype, ← c.messagesIn_append hreads hlength]
      rfl

/-- Plain texts with a blank line between are linted each by itself: whatever the options are, the
messages are those for the first text and those for the second, moved by the bytes and lines before
it, and all runs fail for the same reason or none does. -/
theorem plain_texts_linted_apart {rule : Rule}
    (hrule : rule ∈ [NoTodo.rule, SentenceLength.rule, NoDoubledWord.rule]) (c : Rule.Context)
    (a b : List Char) (hlength : byteLength (a ++ ['\n', '\n'] ++ b) < Span.limit) :
    ∃ first second failure,
      rule.runOn c a = .ok (first, failure) ∧
      rule.runOn c b = .ok (second, failure) ∧
      rule.runOn c (a ++ ['\n', '\n'] ++ b) =
        .ok (first ++ second.map (·.moved (byteLength a + 2) (a.count '\n' + 2)), failure) := by
  have hscans : rule.ScansOrFails c := by
    simp only [List.mem_cons, List.not_mem_nil, or_false] at hrule
    rcases hrule with rfl | rfl | rfl
    · exact NoTodo.scansOrFails c
    · exact SentenceLength.scansOrFails c
    · exact NoDoubledWord.scansOrFails c
  exact hscans.runOn_append hlength

/-- A context of the rule against doubled words, for texts to come. -/
def doubledContext : Rule.Context where
  ruleId := "no-doubled-word"
  document := default
  source := []
  lines := .ofText []
  filePath := none
  options := .null
  forced := none

theorem doubledTexts_linted_apart :
    NoDoubledWord.rule ∈ [NoTodo.rule, SentenceLength.rule, NoDoubledWord.rule] ∧
      byteLength ("é the the".toList ++ ['\n', '\n'] ++ "a\r\nb B".toList) < Span.limit ∧
      ∃ first second failure,
        NoDoubledWord.rule.runOn doubledContext "é the the".toList = .ok (first, failure) ∧
        NoDoubledWord.rule.runOn doubledContext "a\r\nb B".toList = .ok (second, failure) ∧
        NoDoubledWord.rule.runOn doubledContext
            ("é the the".toList ++ ['\n', '\n'] ++ "a\r\nb B".toList) =
          .ok (first ++ second.map (·.moved 12 2), failure) := by
  have hrule : NoDoubledWord.rule ∈ [NoTodo.rule, SentenceLength.rule, NoDoubledWord.rule] := by
    simp
  have hlength : byteLength ("é the the".toList ++ ['\n', '\n'] ++ "a\r\nb B".toList) <
      Span.limit := by
    decide
  exact ⟨hrule, hlength, plain_texts_linted_apart hrule doubledContext _ _ hlength⟩

end ProseLinter
