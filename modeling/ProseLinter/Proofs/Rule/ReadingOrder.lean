import ProseLinter.Proofs.Document.PositionOrder
import ProseLinter.Proofs.Document.Runs
import ProseLinter.Proofs.Engine.Batch
import ProseLinter.Proofs.Rule.DoubledWordReport
import ProseLinter.Proofs.Rule.Locality
import ProseLinter.Proofs.Rule.MarkerReport
import ProseLinter.Proofs.Rule.SentenceReport

/-!
# The order of messages

Nothing sorts the messages of a rule. For a plain text they are in reading order nevertheless: the
rules find the matches in a paragraph from left to right, and paragraphs come one behind the other
and do not touch. Only an empty marker may be reported at the end of the text, and behind a line
that is too long its position does not fit.

* `InReadingOrder` and `LieApart` : messages at later and later positions, and messages about parts
  of the text that do not overlap.
* `PlainText.pairwise_findings` : an order of the matches in each paragraph that agrees with the
  order of the paragraphs is one of all findings.
* `ActiveRule.ReportsPastLimit` : the position of an empty marker does not fit.
* `blocks_in_reading_order` : the blocks of the rules.
* `longLine_messages_go_back` : a text for which a block is not in reading order.
-/

namespace ProseLinter

open Text

/-- The position of a message. -/
def Message.position (m : Message) : Position :=
  ⟨m.line, m.column⟩

/-- Messages that come in the order in which a text is read: each of them starts behind the ones
before it, by its span as well as by its line and column. -/
structure InReadingOrder (messages : List Message) : Prop where
  starts : messages.Pairwise fun m m' => m.span.start < m'.span.start
  positions : messages.Pairwise fun m m' => m.position.Before m'.position

/-- Messages about parts of a text that are not empty and come one behind the other. -/
structure LieApart (messages : List Message) : Prop where
  not_empty : ∀ m ∈ messages, m.span.start < m.span.stop
  apart : messages.Pairwise fun m m' => m.span.stop ≤ m'.span.start

/-- Messages that start one behind the other say nothing twice. -/
theorem nodup_of_pairwise_start {messages : List Message}
    (h : messages.Pairwise fun m m' => m.span.start < m'.span.start) : messages.Nodup := by
  refine h.imp ?_
  rintro m _ hlt rfl
  exact Nat.lt_irrefl _ hlt

/-- Of two messages in reading order the one that starts further left comes first. -/
theorem InReadingOrder.before_of_lt {messages : List Message} (h : InReadingOrder messages)
    {m m' : Message} (hm : m ∈ messages) (hm' : m' ∈ messages)
    (hlt : m.span.start < m'.span.start) : m.position.Before m'.position := by
  obtain ⟨i, hi, rfl⟩ := List.getElem_of_mem hm
  obtain ⟨j, hj, rfl⟩ := List.getElem_of_mem hm'
  rcases Nat.lt_trichotomy i j with hij | rfl | hji
  · exact List.pairwise_iff_getElem.1 h.positions i j hi hj hij
  · exact absurd hlt (Nat.lt_irrefl _)
  · have hstarts := List.pairwise_iff_getElem.1 h.starts j i hj hi hji
    exact absurd hlt (Nat.lt_asymm hstarts)

variable {m : Match}

/-! ### Searches -/

/-- Where a match stops in the text that is searched. -/
def Match.stop (m : Match) : Nat :=
  m.start + byteLength m.chars

/-- Matches that are not empty and come one behind the other start one behind the other. -/
theorem pairwise_start_of_stop {ms : List Match} (hne : ∀ m ∈ ms, m.chars ≠ [])
    (hstops : ms.Pairwise (·.stop ≤ ·.start)) : ms.Pairwise (·.start < ·.start) := by
  refine List.Pairwise.imp_of_mem ?_ hstops
  intro m m' hm _ hle
  exact Nat.lt_of_lt_of_le (Piece.start_lt_stop (p := ⟨m.start, m.chars⟩) (hne m hm)) hle

/-- The search for markers matches one at an offset, from left to right. -/
theorem NoTodo.pairwise_start_search (o : Options) (part : List Char) :
    (search o part).Pairwise (·.start < ·.start) := by
  rw [search_eq_map, List.pairwise_map]
  exact (isFound_found o part).sorted

/-- Whether the empty marker is reported: it is looked for, and it is not passed over. -/
def NoTodo.Options.ReportsEmpty (o : Options) : Prop :=
  "" ∈ o.effectivePatterns ∧ "" ∉ o.ignorePatterns

theorem NoTodo.Options.passesOver_nil_iff {o : Options} :
    o.PassesOver [] ↔ "" ∈ o.ignorePatterns := by
  simp only [PassesOver, List.infix_nil, String.toList_eq_nil_iff, exists_eq_right]

/-- Where the empty marker is reported, it is matched at every boundary. -/
theorem NoTodo.mem_search_of_reportsEmpty {o : Options} (h : o.ReportsEmpty)
    (before after : List Char) :
    toMatch ⟨byteLength before, []⟩ ∈ search o (before ++ after) := by
  rw [search_eq_map]
  refine List.mem_map_of_mem (mem_found_iff.2 ⟨⟨?_, ?_⟩, ?_⟩)
  · exact ⟨"", h.1, .boundary rfl before after rfl⟩
  · -- No part of the text is shorter than an empty one.
    intro pattern _ q _ hstart
    rw [Piece.stop, Piece.stop, hstart]
    exact Nat.add_le_add_left (Nat.zero_le _) _
  · rw [Options.passesOver_nil_iff]
    exact h.2

/-- Where it is not, no match is empty. -/
theorem NoTodo.chars_ne_nil_of_mem_search {o : Options} (h : ¬ o.ReportsEmpty) {part : List Char}
    (hm : m ∈ search o part) : m.chars ≠ [] := by
  rw [search_eq_map] at hm
  obtain ⟨p, hp, rfl⟩ := List.mem_map.1 hm
  obtain ⟨hmarker, hpasses⟩ := mem_found_iff.1 hp
  obtain ⟨pattern, hpattern, htakes⟩ := hmarker.taken
  intro hnil
  change p.chars = [] at hnil
  -- The marker that is taken is empty too.
  have hreads := Options.reads_iff.1 htakes.reads
  rw [hnil, Options.fold_eq_map, Options.fold_eq_map, List.map_nil] at hreads
  obtain rfl := String.toList_eq_nil_iff.1 (List.map_eq_nil_iff.1 hreads.symm)
  rw [hnil, Options.passesOver_nil_iff] at hpasses
  exact h ⟨hpattern, hpasses⟩

/-- The sentences that are matched lie apart. -/
theorem SentenceLength.pairwise_stop_search (max : Nat) (part : List Char) :
    (search max part).Pairwise (·.stop ≤ ·.start) := by
  rw [search_eq_map, List.pairwise_map]
  exact (apart_sentences part).filter _

theorem SentenceLength.chars_ne_nil_of_mem_search {max : Nat} {part : List Char}
    (hm : m ∈ search max part) : m.chars ≠ [] :=
  (areSentences_sentences part).ne_nil _ (readsIn_of_mem_search hm).2.isSentence

/-- The words of a text lie apart. -/
theorem NoDoubledWord.apart_words (part : List Char) : Apart ((words part).map Word.piece) := by
  have hwords := areWords_words part
  refine List.Pairwise.imp_of_mem ?_ hwords.inOrder
  intro p q hp hq hbefore
  have hp := (hwords.mem_iff p).1 hp
  have hq := (hwords.mem_iff q).1 hq
  rcases hp.eq_or_stop_le hq (Nat.le_of_lt hbefore) with rfl | hle
  · exact absurd hbefore (Nat.lt_irrefl p.start)
  · exact hle

/-- The words that are matched lie apart. -/
theorem NoDoubledWord.pairwise_stop_search (part : List Char) :
    (search part).Pairwise (·.stop ≤ ·.start) := by
  rw [search_eq_map, List.pairwise_map]
  exact (apart_words part).sublist (doubled_sublist part)

theorem NoDoubledWord.IsRun.chars_ne_nil {part : List Char} {p : Piece} (h : IsRun part p) :
    p.chars ≠ [] := by
  cases h with
  | intro htext hne hchars hbefore hafter => exact hne

theorem NoDoubledWord.chars_ne_nil_of_mem_search {part : List Char} (hm : m ∈ search part) :
    m.chars ≠ [] := by
  rw [search_eq_map] at hm
  obtain ⟨p, hp, rfl⟩ := List.mem_map.1 hm
  exact (((areWords_words part).mem_iff p).1 ((doubled_sublist part).subset hp)).chars_ne_nil

/-! ### Findings -/

variable {search : List Char → List Match} {text : List Char} {f : Finding} {span : Span}

theorem Match.span_findingAt (m : Match) (span : Span) :
    (m.findingAt span).span = ⟨span.start + m.start, span.start + m.stop⟩ := by
  rw [findingAt, Span.part, stop, Nat.add_assoc]

namespace PlainText

/-- A finding for a match in a paragraph is a part of the text within the paragraph. -/
theorem exists_slice?_of_readsIn (hspan : span ∈ paragraphs text)
    (hm : m.ReadsIn ((slice? text span.start span.stop).getD [])) :
    slice? text (m.findingAt span).span.start (m.findingAt span).span.stop = some m.chars ∧
      (m.findingAt span).span.stop ≤ span.stop := by
  obtain ⟨-, content, hcontent⟩ := exists_slice?_of_mem_paragraphs hspan
  rw [hcontent, Option.getD_some] at hm
  have hwithin := stop_le_of_slice? hm
  have hlength := stop_of_slice? hcontent
  rw [Match.span_findingAt]
  refine ⟨slice?_of_slice? hcontent hm, ?_⟩
  dsimp only [Match.stop]
  omega

/-- A finding for a match that is not empty starts before the end of the text. -/
theorem start_lt_of_chars_ne_nil (hspan : span ∈ paragraphs text)
    (hm : m.ReadsIn ((slice? text span.start span.stop).getD [])) (hne : m.chars ≠ []) :
    (m.findingAt span).span.start < byteLength text := by
  have hstop := (exists_slice?_of_readsIn hspan hm).2
  have hend := (le_of_mem_paragraphs hspan).2
  have hlt : m.start < m.stop := Piece.start_lt_stop (p := ⟨m.start, m.chars⟩) hne
  rw [Match.span_findingAt] at hstop ⊢
  dsimp only at hstop ⊢
  omega

/-- Where no match is empty, the positions of all findings fit. -/
theorem not_overflows_of_mem_findings (hreads : ∀ part, ∀ m ∈ search part, m.ReadsIn part)
    (hne : ∀ part, ∀ m ∈ search part, m.chars ≠ []) (hlength : byteLength text < Span.limit)
    (hf : f ∈ findings search text) : ¬ Overflows text f.span.start := by
  obtain ⟨span, hspan, hfound⟩ := List.mem_flatMap.1 hf
  obtain ⟨m, hm, rfl⟩ := List.mem_map.1 hfound
  exact not_overflows_of_lt hlength (start_lt_of_chars_ne_nil hspan (hreads _ m hm) (hne _ m hm))

/-- Where the empty marker is reported, it is found at every boundary of a paragraph. -/
theorem mem_findings_of_reportsEmpty {o : NoTodo.Options} (h : o.ReportsEmpty)
    (before after : List Char) (hspan : span ∈ paragraphs text)
    (hcontent : slice? text span.start span.stop = some (before ++ after)) :
    (NoTodo.toMatch ⟨byteLength before, []⟩).findingAt span ∈ findings (NoTodo.search o) text := by
  refine List.mem_flatMap.2 ⟨span, hspan, List.mem_map_of_mem ?_⟩
  rw [hcontent, Option.getD_some]
  exact NoTodo.mem_search_of_reportsEmpty h before after

/-- A finding is a part of the text. -/
theorem exists_slice?_of_mem_findings (hreads : ∀ part, ∀ m ∈ search part, m.ReadsIn part)
    (hf : f ∈ findings search text) :
    ∃ chars, slice? text f.span.start f.span.stop = some chars := by
  obtain ⟨span, hspan, hfound⟩ := List.mem_flatMap.1 hf
  obtain ⟨m, hm, rfl⟩ := List.mem_map.1 hfound
  exact ⟨m.chars, (exists_slice?_of_readsIn hspan (hreads _ m hm)).1⟩

/-- An order of spans holds between the findings in a text if it holds between those in each
paragraph, and between a span and every other that starts behind its stop. -/
theorem pairwise_findings {r : Span → Span → Prop}
    (hreads : ∀ part, ∀ m ∈ search part, m.ReadsIn part)
    (hwithin : ∀ part span, (search part).Pairwise fun m m' =>
      r (m.findingAt span).span (m'.findingAt span).span)
    (hacross : ∀ s s' : Span, s.start ≤ s.stop → s.stop < s'.start → r s s') :
    (findings search text).Pairwise fun f f' => r f.span f'.span := by
  rw [findings, List.pairwise_flatMap]
  constructor
  · intro span _
    exact List.pairwise_map.2 (hwithin _ span)
  · -- A finding stops in its paragraph, and those in a later one start in that.
    refine List.Pairwise.imp_of_mem ?_ (pairwise_paragraphs text)
    intro span span' hspan _ hlt f hf f' hf'
    obtain ⟨m, hm, rfl⟩ := List.mem_map.1 hf
    obtain ⟨m', -, rfl⟩ := List.mem_map.1 hf'
    obtain ⟨-, hstop⟩ := exists_slice?_of_readsIn hspan (hreads _ m hm)
    rw [Match.span_findingAt] at hstop ⊢
    rw [Match.span_findingAt]
    apply hacross
    · exact Nat.add_le_add_left (Nat.le_add_right _ _) _
    · exact Nat.lt_of_le_of_lt hstop (Nat.lt_add_right _ hlt)

/-- Where each match starts behind the one before, so does each finding. -/
theorem pairwise_start_findings (hreads : ∀ part, ∀ m ∈ search part, m.ReadsIn part)
    (hstarts : ∀ part, (search part).Pairwise (·.start < ·.start)) (text : List Char) :
    (findings search text).Pairwise fun f f' => f.span.start < f'.span.start := by
  refine pairwise_findings (r := fun s s' => s.start < s'.start) hreads ?_ ?_
  · intro part span
    refine (hstarts part).imp ?_
    intro m m' hlt
    simp only [Match.span_findingAt]
    exact Nat.add_lt_add_left hlt span.start
  · intro s s' hle hlt
    exact Nat.lt_of_le_of_lt hle hlt

/-- Where no match starts before the stop of an earlier one, no finding does. -/
theorem pairwise_stop_findings (hreads : ∀ part, ∀ m ∈ search part, m.ReadsIn part)
    (hstops : ∀ part, (search part).Pairwise (·.stop ≤ ·.start)) (text : List Char) :
    (findings search text).Pairwise fun f f' => f.span.stop ≤ f'.span.start := by
  refine pairwise_findings (r := fun s s' => s.stop ≤ s'.start) hreads ?_ ?_
  · intro part span
    refine (hstops part).imp ?_
    intro m m' hle
    simp only [Match.span_findingAt]
    exact Nat.add_le_add_left hle span.start
  · intro s s' _ hlt
    exact Nat.le_of_lt hlt

end PlainText

/-! ### Messages -/

namespace Rule.Context

variable {c : Context}

/-- Where the position of a finding fits, the message has it as it is counted. -/
theorem position_message (hlength : byteLength text < Span.limit)
    (hle : f.span.start ≤ byteLength text) (hfits : ¬ Overflows text f.span.start)
    (document : Node) :
    ((c.on text document).message f).position =
      (LineIndex.ofText text).countedPosition f.span.start :=
  LineIndex.position_eq_counted (Nat.lt_of_le_of_lt hle hlength) hfits

/-- Findings in a plain text that start one behind the other, all of them where positions fit, make
messages in reading order. -/
theorem inReadingOrder_messagesIn (hreads : ∀ part, ∀ m ∈ search part, m.ReadsIn part)
    (hstarts : ∀ part, (search part).Pairwise (·.start < ·.start))
    (hlength : byteLength text < Span.limit)
    (hfits : ∀ f ∈ PlainText.findings search text, ¬ Overflows text f.span.start) :
    InReadingOrder (c.messagesIn search text) := by
  have hfindings := PlainText.pairwise_start_findings hreads hstarts text
  constructor
  · rw [messagesIn, List.pairwise_map]
    exact hfindings
  · rw [messagesIn, List.pairwise_map]
    refine List.Pairwise.imp_of_mem ?_ hfindings
    intro f f' hf hf' hlt
    have hle := PlainText.start_le_of_mem_findings hreads hf
    have hle' := PlainText.start_le_of_mem_findings hreads hf'
    -- A finding is a part of the text, so it does not start inside a character.
    obtain ⟨chars, hslice⟩ := PlainText.exists_slice?_of_mem_findings hreads hf'
    rw [position_message hlength hle (hfits f hf), position_message hlength hle' (hfits f' hf')]
    exact LineIndex.countedPosition_before hlt (isBoundary_of_slice? hslice)

/-- Matches that are not empty and come one behind the other make messages that do so too. -/
theorem lieApart_messagesIn (hreads : ∀ part, ∀ m ∈ search part, m.ReadsIn part)
    (hne : ∀ part, ∀ m ∈ search part, m.chars ≠ [])
    (hstops : ∀ part, (search part).Pairwise (·.stop ≤ ·.start)) :
    LieApart (c.messagesIn search text) := by
  constructor
  · intro message hmessage
    obtain ⟨f, hf, rfl⟩ := List.mem_map.1 hmessage
    obtain ⟨span, -, hfound⟩ := List.mem_flatMap.1 hf
    obtain ⟨m, hm, rfl⟩ := List.mem_map.1 hfound
    show (m.findingAt span).span.start < (m.findingAt span).span.stop
    rw [Match.span_findingAt]
    exact Nat.add_lt_add_left (Piece.start_lt_stop (p := ⟨m.start, m.chars⟩) (hne _ m hm)) _
  · rw [messagesIn, List.pairwise_map]
    exact PlainText.pairwise_stop_findings hreads hstops text

/-- Neither the line nor the column of a message is greater than the offset of its span allows. -/
theorem position_le_of_mem_messagesIn {message : Message}
    (h : message ∈ c.messagesIn search text) :
    message.line ≤ message.span.start + 1 ∧ message.column ≤ message.span.start + 1 := by
  obtain ⟨f, -, rfl⟩ := List.mem_map.1 h
  have hwithin := byteLength_within_le text f.span.start
  obtain ⟨hline, hcolumn⟩ := LineIndex.countedPosition_le text f.span.start
  constructor
  · exact Nat.le_trans (Nat.mod_le _ _) (Nat.le_trans hline (Nat.succ_le_succ hwithin))
  · exact Nat.le_trans (Nat.mod_le _ _) (Nat.le_trans hcolumn (Nat.succ_le_succ hwithin))

end Rule.Context

/-! ### Blocks -/

/-- The rules that report what they match in plain texts, with options that they accept: the options
can be read, and the limit of sentences is not zero. -/
inductive Rule.Accepts : Rule → Rule.Context → Prop
  | noTodo {c : Context} {o : NoTodo.Options}
      (h : c.readOptions {} NoTodo.Options.decode = .ok o) : Accepts NoTodo.rule c
  | sentenceLength {c : Context} {o : SentenceLength.Options}
      (h : c.readOptions {} SentenceLength.Options.decode = .ok o) (hmax : 0 < o.max) :
      Accepts SentenceLength.rule c
  | noDoubledWord {c : Context} : Accepts NoDoubledWord.rule c

namespace ActiveRule

variable {a : ActiveRule} {filePath : Option String}

/-- What a rule gets to see of a plain text. -/
def plainContext (a : ActiveRule) (text : List Char) (filePath : Option String) : Rule.Context :=
  a.context (PlainText.parse text) text (LineIndex.ofText text) filePath

/-- The report of a rule for a plain text. -/
def plainReport (a : ActiveRule) (text : List Char) (filePath : Option String) : Rule.Report :=
  a.reportOn (PlainText.parse text) text filePath

/-- The block of a rule for a plain text. -/
def plainBlock (a : ActiveRule) (text : List Char) (filePath : Option String) : List Message :=
  a.blockOn (PlainText.parse text) text filePath

/-- A rule has reported what it found in a plain text by increasing offsets and nothing twice.
Neither the line nor the column of a message is greater than the offset of its span allows. -/
structure ReportsByOffset (a : ActiveRule) (text : List Char) (filePath : Option String) : Prop where
  failure_eq : (a.plainReport text filePath).failure = none
  starts : (a.plainBlock text filePath).Pairwise fun m m' => m.span.start < m'.span.start
  nodup : (a.plainBlock text filePath).Nodup
  position_le : ∀ m ∈ a.plainBlock text filePath,
    m.line ≤ m.span.start + 1 ∧ m.column ≤ m.span.start + 1

/-- A rule reports an empty marker where the position does not fit: at the end of the text, which is
the end of its last paragraph. -/
structure ReportsPastLimit (a : ActiveRule) (text : List Char) (filePath : Option String) :
    Prop where
  rule_eq : a.rule = NoTodo.rule
  reportsEmpty : ∃ o, (a.plainContext text filePath).readOptions {} NoTodo.Options.decode = .ok o ∧
    o.ReportsEmpty
  overflows : Overflows text (byteLength text)
  exists_span : ∃ span ∈ PlainText.paragraphs text, span.stop = byteLength text

/-- The block of a rule that searches the paragraphs has the messages for what is found in them. -/
theorem plainBlock_of_scan {type : NodeType} (htype : type = .str ∨ type = .paragraph)
    (h : a.rule.check (a.plainContext text filePath) =
      ⟨(a.plainContext text filePath).scan type search, none⟩) :
    (a.plainReport text filePath).failure = none ∧
      a.plainBlock text filePath = (a.plainContext text filePath).messagesIn search text := by
  have hreport : a.plainReport text filePath = ⟨PlainText.findings search text, none⟩ := by
    rw [← PlainText.scan_parse htype (a.plainContext text filePath) text]
    exact h
  have hblock : a.plainBlock text filePath =
      (a.plainReport text filePath).messages (a.plainContext text filePath) ++ [] := by
    rw [plainBlock, blockOn, block, ← reportOn, ← plainReport, hreport]
    rfl
  rw [hblock, List.append_nil, hreport]
  exact ⟨rfl, rfl⟩

/-- A rule whose matches start one behind the other reports by increasing offsets. -/
theorem reportsByOffset_of_scan {type : NodeType} (htype : type = .str ∨ type = .paragraph)
    (h : a.rule.check (a.plainContext text filePath) =
      ⟨(a.plainContext text filePath).scan type search, none⟩)
    (hreads : ∀ part, ∀ m ∈ search part, m.ReadsIn part)
    (hstarts : ∀ part, (search part).Pairwise (·.start < ·.start)) :
    a.ReportsByOffset text filePath := by
  obtain ⟨hfailure, hblock⟩ := plainBlock_of_scan htype h
  have hpairwise : (a.plainBlock text filePath).Pairwise
      fun m m' => m.span.start < m'.span.start := by
    rw [hblock, Rule.Context.messagesIn, List.pairwise_map]
    exact PlainText.pairwise_start_findings hreads hstarts text
  refine ⟨hfailure, hpairwise, nodup_of_pairwise_start hpairwise, ?_⟩
  rw [hblock]
  exact fun _ hm => Rule.Context.position_le_of_mem_messagesIn hm

/-- A rule whose matches are not empty and come one behind the other reports in reading order, and
parts of the text that lie apart. -/
theorem lieApart_of_scan {type : NodeType} (htype : type = .str ∨ type = .paragraph)
    (h : a.rule.check (a.plainContext text filePath) =
      ⟨(a.plainContext text filePath).scan type search, none⟩)
    (hreads : ∀ part, ∀ m ∈ search part, m.ReadsIn part)
    (hne : ∀ part, ∀ m ∈ search part, m.chars ≠ [])
    (hstops : ∀ part, (search part).Pairwise (·.stop ≤ ·.start))
    (hlength : byteLength text < Span.limit) :
    a.ReportsByOffset text filePath ∧ InReadingOrder (a.plainBlock text filePath) ∧
      LieApart (a.plainBlock text filePath) := by
  have hstarts := fun part => pairwise_start_of_stop (hne part) (hstops part)
  refine ⟨reportsByOffset_of_scan htype h hreads hstarts, ?_⟩
  rw [(plainBlock_of_scan htype h).2]
  constructor
  · exact Rule.Context.inReadingOrder_messagesIn hreads hstarts hlength
      fun _ hf => PlainText.not_overflows_of_mem_findings hreads hne hlength hf
  · exact Rule.Context.lieApart_messagesIn hreads hne hstops

/-- A block is not in reading order if an empty marker is reported where the position does not
fit. -/
theorem not_inReadingOrder_of_reportsPastLimit (hlength : byteLength text < Span.limit)
    (h : a.ReportsPastLimit text filePath) : ¬ InReadingOrder (a.plainBlock text filePath) := by
  obtain ⟨hrule, ⟨o, hoptions, hempty⟩, hoverflows, span, hspan, hstop⟩ := h
  have hcheck := NoTodo.rule_check_of_readOptions hoptions
  rw [← hrule] at hcheck
  obtain ⟨hlt, content, hcontent⟩ := PlainText.exists_slice?_of_mem_paragraphs hspan
  have hend := stop_of_slice? hcontent
  rw [(plainBlock_of_scan (.inl rfl) hcheck).2]
  intro hinOrder
  -- The empty marker is found at the start of the paragraph and at its end.
  have hfirst := PlainText.mem_findings_of_reportsEmpty hempty [] content hspan hcontent
  have hlast := PlainText.mem_findings_of_reportsEmpty hempty content [] hspan
    (hcontent.trans (congrArg some (List.append_nil content).symm))
  have hbefore := hinOrder.before_of_lt (List.mem_map_of_mem hfirst) (List.mem_map_of_mem hlast) <|
    Nat.add_lt_add_left (show byteLength [] < byteLength content by rw [byteLength_nil]; omega) _
  have hlimit : span.start < Span.limit := by omega
  have hstart := not_overflows_of_lt hlength (hstop ▸ hlt)
  rw [← hstop, hend] at hoverflows
  exact hbefore.asymm (LineIndex.before_of_overflows hoverflows hlimit hstart)

/-- The rule against todo markers reports in reading order unless an empty marker is reported where
the position does not fit. -/
theorem inReadingOrder_iff_of_noTodo {o : NoTodo.Options} (hrule : a.rule = NoTodo.rule)
    (hoptions : (a.plainContext text filePath).readOptions {} NoTodo.Options.decode = .ok o)
    (hlength : byteLength text < Span.limit) :
    InReadingOrder (a.plainBlock text filePath) ↔ ¬ a.ReportsPastLimit text filePath := by
  constructor
  · intro hinOrder hpast
    exact not_inReadingOrder_of_reportsPastLimit hlength hpast hinOrder
  · intro hnot
    have hcheck := NoTodo.rule_check_of_readOptions hoptions
    rw [← hrule] at hcheck
    have hreads (part : List Char) (m : Match) (hm : m ∈ NoTodo.search o part) : m.ReadsIn part :=
      (NoTodo.readsIn_of_mem_search hm).1
    rw [(plainBlock_of_scan (.inl rfl) hcheck).2]
    refine Rule.Context.inReadingOrder_messagesIn hreads (NoTodo.pairwise_start_search o) hlength ?_
    by_cases hempty : o.ReportsEmpty
    · intro f hf hoverflows
      obtain ⟨span, hspan, hfound⟩ := List.mem_flatMap.1 hf
      obtain ⟨m, hm, rfl⟩ := List.mem_map.1 hfound
      have hstop := (PlainText.exists_slice?_of_readsIn hspan (hreads _ m hm)).2
      have hend := (PlainText.le_of_mem_paragraphs hspan).2
      have hle : (m.findingAt span).span.start ≤ (m.findingAt span).span.stop := Nat.le_add_right _ _
      -- What overflows is the end of the text, and the paragraph reaches up to it.
      have hlast : (m.findingAt span).span.start = byteLength text := by
        by_contra hne
        exact not_overflows_of_lt hlength (by omega) hoverflows
      rw [hlast] at hoverflows
      exact hnot ⟨hrule, ⟨o, hoptions, hempty⟩, hoverflows, span, hspan, by omega⟩
    · exact fun f hf => PlainText.not_overflows_of_mem_findings hreads
        (fun _ _ => NoTodo.chars_ne_nil_of_mem_search hempty) hlength hf

end ActiveRule

/-- The messages for a plain text that is not too large are the blocks of the rules. -/
theorem Executor.lintSource_plainText (hlength : byteLength text < Span.limit)
    (rules : List ActiveRule) (filePath : Option String) :
    lintSource .plainText rules text filePath =
      .ok (rules.flatMap (·.plainBlock text filePath)) := by
  have hparse : Parser.plainText.parse text = .ok (PlainText.parse text) :=
    if_neg (Nat.not_le.2 hlength)
  rw [lintSource, hparse]
  rfl

/-- A plain text that is too large is refused. Otherwise its messages are the blocks of the rules one
after another. Each of these rules reports by increasing offsets and nothing twice; its block is in
reading order exactly unless an empty marker is reported where the position does not fit. No two of
the long sentences or of the repeated words that are reported overlap, and these are always in
reading order. -/
theorem blocks_in_reading_order (rules : List ActiveRule) (text : List Char)
    (filePath : Option String) :
    (Span.limit ≤ byteLength text →
      Executor.lintSource .plainText rules text filePath =
        .error (.unparsable (.tooLarge (byteLength text)))) ∧
    (byteLength text < Span.limit →
      Executor.lintSource .plainText rules text filePath =
        .ok (rules.flatMap (·.plainBlock text filePath)) ∧
      ∀ a ∈ rules, a.rule.Accepts (a.plainContext text filePath) →
        a.ReportsByOffset text filePath ∧
        (InReadingOrder (a.plainBlock text filePath) ↔ ¬ a.ReportsPastLimit text filePath) ∧
        (a.rule = SentenceLength.rule ∨ a.rule = NoDoubledWord.rule →
          InReadingOrder (a.plainBlock text filePath) ∧
            LieApart (a.plainBlock text filePath))) := by
  -- The rules are told apart by what they say of themselves.
  have hsentences : SentenceLength.rule ≠ NoTodo.rule := fun h =>
    absurd (congrArg Rule.description h) (by decide)
  have hwords : NoDoubledWord.rule ≠ NoTodo.rule := fun h =>
    absurd (congrArg Rule.description h) (by decide)
  constructor
  · intro hlength
    have hparse : Parser.plainText.parse text = .error (.tooLarge (byteLength text)) :=
      if_pos hlength
    rw [Executor.lintSource, hparse]
    rfl
  intro hlength
  refine ⟨Executor.lintSource_plainText hlength rules filePath, ?_⟩
  intro a _ haccepts
  generalize hrule : a.rule = rule at haccepts
  cases haccepts with
  | noTodo hoptions =>
    have hcheck := NoTodo.rule_check_of_readOptions hoptions
    rw [← hrule] at hcheck
    refine ⟨ActiveRule.reportsByOffset_of_scan (.inl rfl) hcheck
        (fun _ _ hm => (NoTodo.readsIn_of_mem_search hm).1) (NoTodo.pairwise_start_search _),
      ActiveRule.inReadingOrder_iff_of_noTodo hrule hoptions hlength, ?_⟩
    rintro (h | h)
    · exact absurd h.symm hsentences
    · exact absurd h.symm hwords
  | sentenceLength hoptions hmax =>
    have hcheck := SentenceLength.rule_check_of_readOptions hoptions hmax
    rw [← hrule] at hcheck
    obtain ⟨hbyOffset, hordered⟩ := ActiveRule.lieApart_of_scan (.inr rfl) hcheck
      (fun _ _ hm => (SentenceLength.readsIn_of_mem_search hm).1)
      (fun _ _ hm => SentenceLength.chars_ne_nil_of_mem_search hm)
      (SentenceLength.pairwise_stop_search _) hlength
    exact ⟨hbyOffset, iff_of_true hordered.1 fun hpast => hsentences (hrule.symm.trans hpast.rule_eq),
      fun _ => hordered⟩
  | noDoubledWord =>
    have hcheck : a.rule.check (a.plainContext text filePath) =
        ⟨(a.plainContext text filePath).scan .str NoDoubledWord.search, none⟩ := by
      rw [hrule]
      rfl
    obtain ⟨hbyOffset, hordered⟩ := ActiveRule.lieApart_of_scan (.inl rfl) hcheck
      (fun _ _ hm => (NoDoubledWord.readsIn_of_mem_search hm).1)
      (fun _ _ hm => NoDoubledWord.chars_ne_nil_of_mem_search hm)
      NoDoubledWord.pairwise_stop_search hlength
    exact ⟨hbyOffset, iff_of_true hordered.1 fun hpast => hwords (hrule.symm.trans hpast.rule_eq),
      fun _ => hordered⟩

/-- A text with characters of several bytes and paragraphs that lie as close as they can. -/
def crowdedText : List Char :=
  "é É. b\r\n\na\n\n日".toList

/-- The rule against todo markers when the only marker is the empty one, which is found between any
two characters. -/
def emptyMarkerRule : ActiveRule :=
  ⟨"no-todo", NoTodo.rule, Json.ofFields [("patterns", .array [.string ""])], none⟩

/-- Its options can be read for every text. -/
theorem readOptions_emptyMarkerRule (text : List Char) (filePath : Option String) :
    (emptyMarkerRule.plainContext text filePath).readOptions {} NoTodo.Options.decode =
      .ok { patterns := [""] } :=
  rfl

/-- Rules that find much in the text. -/
def crowdedRules : List ActiveRule :=
  [emptyMarkerRule,
   ⟨"sentence-length", SentenceLength.rule, Json.ofFields [("max", .number (.int 1))], none⟩,
   ⟨"no-doubled-word", NoDoubledWord.rule, .null, some .info⟩]

theorem crowdedText_blocks_in_reading_order :
    byteLength crowdedText < Span.limit ∧
      (∀ a ∈ crowdedRules, a.rule.Accepts (a.plainContext crowdedText none)) ∧
      Executor.lintSource .plainText crowdedRules crowdedText none =
        .ok (crowdedRules.flatMap (·.plainBlock crowdedText none)) ∧
      ∀ a ∈ crowdedRules, ¬ a.ReportsPastLimit crowdedText none ∧
        a.ReportsByOffset crowdedText none ∧ InReadingOrder (a.plainBlock crowdedText none) ∧
        (a.rule = SentenceLength.rule ∨ a.rule = NoDoubledWord.rule →
          LieApart (a.plainBlock crowdedText none)) := by
  have hlength : byteLength crowdedText < Span.limit := by decide
  have haccepts : ∀ a ∈ crowdedRules, a.rule.Accepts (a.plainContext crowdedText none) := by
    rw [crowdedRules, List.forall_mem_cons, List.forall_mem_cons, List.forall_mem_singleton]
    refine ⟨?_, ?_, .noDoubledWord⟩
    · exact .noTodo (readOptions_emptyMarkerRule _ _)
    · exact .sentenceLength (o := { max := 1 }) rfl Nat.one_pos
  obtain ⟨hblocks, hordered⟩ := (blocks_in_reading_order crowdedRules crowdedText none).2 hlength
  refine ⟨hlength, haccepts, hblocks, fun a ha => ?_⟩
  obtain ⟨hbyOffset, hiff, hapart⟩ := hordered a ha (haccepts a ha)
  -- The text is much shorter than the greatest offset.
  have hnot : ¬ a.ReportsPastLimit crowdedText none := by
    rintro ⟨-, -, ⟨hlast, -, -, -, -⟩, -⟩
    exact absurd hlast (by decide)
  exact ⟨hnot, hbyOffset, hiff.2 hnot, fun hrule => (hapart hrule).2⟩

/-- Behind a line that is too long the empty marker is reported at a position before those of the
other messages. -/
theorem longLine_messages_go_back :
    byteLength LineIndex.longLine < Span.limit ∧
      emptyMarkerRule.rule.Accepts (emptyMarkerRule.plainContext LineIndex.longLine none) ∧
      Executor.lintSource .plainText [emptyMarkerRule] LineIndex.longLine none =
        .ok (emptyMarkerRule.plainBlock LineIndex.longLine none) ∧
      ¬ InReadingOrder (emptyMarkerRule.plainBlock LineIndex.longLine none) := by
  have hlimit : Span.limit - 1 < Span.limit := by decide
  have hlength : byteLength LineIndex.longLine < Span.limit := by
    rw [LineIndex.byteLength_longLine]
    exact hlimit
  have hoptions := readOptions_emptyMarkerRule LineIndex.longLine none
  have hchars (c : Char) (hc : c ∈ LineIndex.longLine) : c = 'a' := List.eq_of_mem_replicate hc
  have hspan : PlainText.paragraphs LineIndex.longLine = [⟨0, byteLength LineIndex.longLine⟩] := by
    refine PlainText.paragraphs_of_one_line (fun c hc => ?_) ⟨'a', ?_, by decide⟩
    · rw [hchars c hc]
      decide
    · exact List.mem_replicate.2 ⟨by decide, rfl⟩
  have hoverflows : Overflows LineIndex.longLine (byteLength LineIndex.longLine) := by
    rw [LineIndex.byteLength_longLine]
    exact LineIndex.overflows_longLine
  have hexists : ∃ span ∈ PlainText.paragraphs LineIndex.longLine,
      span.stop = byteLength LineIndex.longLine := by
    rw [hspan]
    -- Nothing may count the letters.
    generalize byteLength LineIndex.longLine = bytes
    exact ⟨_, List.mem_singleton_self _, rfl⟩
  have hpast : emptyMarkerRule.ReportsPastLimit LineIndex.longLine none :=
    ⟨rfl, ⟨_, hoptions, List.mem_singleton_self _, List.not_mem_nil⟩, hoverflows, hexists⟩
  have hblocks := Executor.lintSource_plainText hlength [emptyMarkerRule] none
  rw [List.flatMap_singleton] at hblocks
  exact ⟨hlength, .noTodo hoptions, hblocks,
    ActiveRule.not_inReadingOrder_of_reportsPastLimit hlength hpast⟩

end ProseLinter
