import Mathlib.Data.List.Forall2
import ProseLinter.Document.PlainText
import ProseLinter.Proofs.Rule.Scan
import ProseLinter.Proofs.Text.Occurrence

/-!
# What a pattern rule reports

A pattern rule searches a folded copy of each text once for every pattern, and sorts what is found.
What it reports are the occurrences of each pattern alone, from left to right and without overlaps,
in order of offset and then of pattern; the offsets are those in the text as written.

* `PatternRule.exists_of_ofModule` : the rule that a module describes.
* `PatternRule.exists_of_mem_hits` and `PatternRule.pairwise_hits` : the occurrences, and their
  order.
* `PatternRule.messages_of_ofModule` : the messages of the rule.
-/

namespace ProseLinter

open Text

/-! ### What a module says -/

namespace PatternModule

variable {m : PatternModule} {e : PatternEntry} {part : List Char}

/-- Whether a part of a text is the pattern of an entry: in the same letters, or in ASCII letters of
any case. -/
def Reads (m : PatternModule) (e : PatternEntry) (part : List Char) : Prop :=
  if m.caseSensitive then part = e.pattern.toList
  else asciiLower part = asciiLower e.pattern.toList

/-- The message of an entry before the match is filled in: its own, or else that of the module. -/
def templateOf (m : PatternModule) (e : PatternEntry) : String :=
  e.text.getD (m.text.getD "Found \"\x7bmatch\x7d\"")

/-- The severity of an entry: its own, or else that of the module. -/
def severityOf (m : PatternModule) (e : PatternEntry) : Severity :=
  e.severity.getD (m.severity.getD .error)

/-- The place for the match in a message. -/
def placeholder : List Char :=
  "\x7bmatch\x7d".toList

/-- A message with the match in all places for it: the parts between these stay as they are, and the
match stays as it is too. -/
def Fills (template matched message : List Char) : Prop :=
  ∃ parts, parts ≠ [] ∧ (∀ part ∈ parts, ¬ placeholder <:+: part) ∧
    template = placeholder.intercalate parts ∧ message = matched.intercalate parts

/-- The letter that stands for a character when texts are compared. -/
def foldChar (m : PatternModule) : Char → Char :=
  if m.caseSensitive then id else Char.toLower

theorem utf8Size_foldChar (m : PatternModule) (c : Char) :
    (m.foldChar c).utf8Size = c.utf8Size := by
  rw [foldChar]
  split
  · rfl
  · exact utf8Size_toLower c

/-- The pattern of an entry, ready for use. -/
def patternFor (m : PatternModule) (e : PatternEntry) : Pattern :=
  ⟨e.pattern.toList.map m.foldChar, m.templateOf e, m.severityOf e⟩

theorem reads_iff : m.Reads e part ↔ part.map m.foldChar = (m.patternFor e).needle := by
  rw [Reads, patternFor, foldChar]
  split
  · rw [List.map_id, List.map_id]
  · rfl

end PatternModule

open PatternModule

namespace PatternRule

variable {m : PatternModule} {r : PatternRule} {text : List Char}

theorem patternOf_eq_ok {e : PatternEntry} {p : Pattern} (h : patternOf m e = .ok p) :
    e.pattern ≠ "" ∧ patternOf m e = .ok (m.patternFor e) := by
  rw [patternOf] at h ⊢
  split at h
  · cases h
  · next hne =>
    refine ⟨by simpa using hne, ?_⟩
    rw [if_neg hne, patternFor, foldChar]
    cases m.caseSensitive with
    | true => simp [templateOf, severityOf, defaultText]
    | false => rfl

/-- The rule that a module describes has a pattern for each entry, and none of them is empty. -/
theorem exists_of_ofModule (h : ofModule m = .ok r) :
    r.nodeTypes = m.nodeTypes ∧ r.caseSensitive = m.caseSensitive ∧
      r.patterns = m.patterns.map m.patternFor ∧ ∀ e ∈ m.patterns, e.pattern ≠ "" := by
  rw [ofModule] at h
  split at h
  · cases h
  · split at h
    · cases h
    · obtain ⟨patterns, hpatterns, h⟩ := exists_of_bind_eq_ok h
      have hentries : ∀ e ∈ m.patterns, e.pattern ≠ "" ∧ patternOf m e = .ok (m.patternFor e) := by
        intro e he
        obtain ⟨p, hp⟩ := exists_eq_ok_of_mapM hpatterns e he
        exact patternOf_eq_ok hp
      rw [mapM_eq_ok_map fun e he => (hentries e he).2] at hpatterns
      obtain rfl := Except.ok.inj hpatterns
      obtain rfl := Except.ok.inj h
      exact ⟨rfl, rfl, rfl, fun e he => (hentries e he).1⟩

theorem fold_eq_map (hcase : r.caseSensitive = m.caseSensitive) (cs : List Char) :
    r.fold cs = cs.map m.foldChar := by
  rw [fold, foldChar, hcase]
  split
  · rw [List.map_id]
  · rfl

/-! ### Occurrences -/

theorem mem_hits_iff {h : Hit} :
    h ∈ r.hits text ↔
      r.patterns[h.index]? = some h.pattern ∧
        h.start ∈ occurrences h.pattern.needle (r.fold text) := by
  rw [hits, List.mem_mergeSort, List.mem_flatMap]
  constructor
  · rintro ⟨⟨pattern, index⟩, hpattern, hstart⟩
    obtain ⟨start, hoccurs, rfl⟩ := List.mem_map.1 hstart
    exact ⟨List.mem_zipIdx_iff_getElem?.1 hpattern, hoccurs⟩
  · rintro ⟨hpattern, hoccurs⟩
    exact ⟨(h.pattern, h.index), List.mem_zipIdx_iff_getElem?.2 hpattern,
      List.mem_map.2 ⟨h.start, hoccurs, rfl⟩⟩

theorem length_eq_of_reads {e : PatternEntry} {part other : List Char} (hpart : m.Reads e part)
    (hother : m.Reads e other) : part.length = other.length := by
  have h := (reads_iff.1 hpart).trans (reads_iff.1 hother).symm
  simpa using congrArg List.length h

/-- No pattern of a module that is accepted is empty. -/
theorem ne_nil_of_reads (hrule : ofModule m = .ok r) {e : PatternEntry} (he : e ∈ m.patterns)
    {part : List Char} (hpart : m.Reads e part) : part ≠ [] := by
  obtain ⟨-, -, -, hpatterns⟩ := exists_of_ofModule hrule
  rintro rfl
  have hneedle := reads_iff.1 hpart
  exact hpatterns e he (by simpa [patternFor] using hneedle.symm)

/-- What is found in the folded text are the parts of the text that are taken for the pattern. -/
theorem exists_greedy_reads (hrule : ofModule m = .ok r) {e : PatternEntry} (he : e ∈ m.patterns)
    (text : List Char) :
    ∃ parts, Greedy (m.Reads e) 0 text parts ∧
      occurrences (m.patternFor e).needle (r.fold text) = parts.map (·.start) := by
  obtain ⟨-, hcase, -, hpatterns⟩ := exists_of_ofModule hrule
  have hne : (m.patternFor e).needle ≠ [] := by simpa [patternFor] using hpatterns e he
  obtain ⟨parts, hparts, hstarts⟩ := exists_greedy (utf8Size_foldChar m) hne 0 text
  have hreads : m.Reads e = fun part => part.map m.foldChar = (m.patternFor e).needle :=
    funext fun part => propext reads_iff
  rw [hreads, fold_eq_map hcase]
  exact ⟨parts, hparts, hstarts⟩

/-- An occurrence of a pattern in a text: the index of the pattern, and the part of the text. -/
structure Occurrence where
  index : Nat
  part : Piece

/-- The occurrence in a text at which there is a hit. -/
def Hit.occurrence (text : List Char) (h : Hit) : Occurrence :=
  ⟨h.index, ⟨h.start, (slice? text h.start h.stop).getD []⟩⟩

/-- Where a part of the text is taken, the hit there has that part. -/
theorem occurrence_eq {e : PatternEntry} {parts : List Piece} {p : Piece}
    (hparts : Greedy (m.Reads e) 0 text parts) (hp : p ∈ parts) (index : Nat) :
    Hit.occurrence text ⟨p.start, index, m.patternFor e⟩ = ⟨index, p⟩ := by
  have hreads := reads_iff.1 (hparts.exists_of_mem hp).1
  have hstop : Hit.stop ⟨p.start, index, m.patternFor e⟩ = p.stop := by
    rw [Hit.stop, Piece.stop, ← hreads, byteLength_map (utf8Size_foldChar m)]
  rw [Hit.occurrence, hstop, hparts.slice?_of_mem hp]
  rfl

/-- A hit is at a part of the text that is taken for the pattern of an entry. -/
theorem exists_of_mem_hits (hrule : ofModule m = .ok r) {h : Hit} (hhit : h ∈ r.hits text) :
    ∃ e parts p, m.patterns[h.index]? = some e ∧ Greedy (m.Reads e) 0 text parts ∧ p ∈ parts ∧
      h = ⟨p.start, h.index, m.patternFor e⟩ := by
  obtain ⟨hpattern, hoccurs⟩ := mem_hits_iff.1 hhit
  -- The pattern at the index of the hit is that of the entry there.
  obtain ⟨-, -, hpatterns, -⟩ := exists_of_ofModule hrule
  rw [hpatterns, List.getElem?_map] at hpattern
  obtain ⟨e, he, hpattern⟩ := Option.map_eq_some_iff.1 hpattern
  obtain ⟨parts, hparts, hstarts⟩ := exists_greedy_reads hrule (List.mem_of_getElem? he) text
  rw [← hpattern, hstarts] at hoccurs
  obtain ⟨p, hp, hstart⟩ := List.mem_map.1 hoccurs
  exact ⟨e, parts, p, he, hparts, hp, by rw [hstart, hpattern]⟩

/-- There is a hit at every part of the text that is taken for the pattern of an entry. -/
theorem mem_hits (hrule : ofModule m = .ok r) {e : PatternEntry} {index : Nat} {parts : List Piece}
    {p : Piece} (he : m.patterns[index]? = some e) (hparts : Greedy (m.Reads e) 0 text parts)
    (hp : p ∈ parts) : ⟨p.start, index, m.patternFor e⟩ ∈ r.hits text := by
  obtain ⟨-, -, hpatterns, -⟩ := exists_of_ofModule hrule
  obtain ⟨parts', hparts', hstarts⟩ := exists_greedy_reads hrule (List.mem_of_getElem? he) text
  -- There is only one way to take the parts, so they are those that the search finds.
  obtain rfl := hparts.unique (fun _ _ => length_eq_of_reads) hparts'
  rw [mem_hits_iff]
  constructor
  · rw [hpatterns, List.getElem?_map, he]
    rfl
  · rw [hstarts]
    exact List.mem_map_of_mem hp

/-! ### Order -/

/-- Whether one occurrence comes before another: by offset, and by pattern at the same offset. -/
def Occurrence.Before (a b : Occurrence) : Prop :=
  a.part.start < b.part.start ∨ a.part.start = b.part.start ∧ a.index < b.index

theorem Hit.le_iff {a b : Hit} :
    Hit.le a b = true ↔ a.start < b.start ∨ a.start = b.start ∧ a.index ≤ b.index := by
  simp [Hit.le]

theorem pairwise_le_hits (r : PatternRule) (text : List Char) :
    (r.hits text).Pairwise fun a b => Hit.le a b = true := by
  apply List.pairwise_mergeSort
  · intro a b c hab hbc
    rw [Hit.le_iff] at hab hbc ⊢
    omega
  · intro a b
    rw [Bool.or_eq_true, Hit.le_iff, Hit.le_iff]
    omega

/-- No two hits are of one pattern at one offset. -/
theorem pairwise_ne_hits (hrule : ofModule m = .ok r) (text : List Char) :
    (r.hits text).Pairwise fun a b => a.start ≠ b.start ∨ a.index ≠ b.index := by
  obtain ⟨-, -, hpatterns, -⟩ := exists_of_ofModule hrule
  rw [hits, (List.mergeSort_perm _ _).pairwise_iff (by intro a b h; exact h.imp Ne.symm Ne.symm),
    List.pairwise_flatMap]
  constructor
  · -- The occurrences of one pattern start one behind the other.
    rintro ⟨pattern, index⟩ hpattern
    have hmem := List.fst_mem_of_mem_zipIdx hpattern
    rw [hpatterns] at hmem
    obtain ⟨e, he, rfl⟩ := List.mem_map.1 hmem
    obtain ⟨parts, hparts, hstarts⟩ := exists_greedy_reads hrule he text
    dsimp only
    rw [hstarts, List.map_map, List.pairwise_map]
    refine hparts.pairwise.imp_of_mem ?_
    intro p q hp _ hle
    have hpos : byteLength p.chars ≠ 0 := by
      intro hzero
      exact ne_nil_of_reads hrule he (hparts.exists_of_mem hp).1 (byteLength_eq_zero.1 hzero)
    refine .inl (Nat.ne_of_lt ?_)
    rw [Piece.stop] at hle
    exact show p.start < q.start by omega
  · -- The hits of two patterns differ in the index.
    have hindices : (r.patterns.zipIdx.map Prod.snd).Nodup := by
      rw [List.zipIdx_map_snd]
      exact List.nodup_range'
    refine (List.pairwise_map.1 hindices).imp ?_
    intro a b hab x hx y hy
    obtain ⟨_, -, rfl⟩ := List.mem_map.1 hx
    obtain ⟨_, -, rfl⟩ := List.mem_map.1 hy
    exact .inr hab

/-- The occurrences in a text are in strict order. -/
theorem pairwise_occurrences (hrule : ofModule m = .ok r) (text : List Char) :
    ((r.hits text).map (Hit.occurrence text)).Pairwise Occurrence.Before := by
  rw [List.pairwise_map]
  refine ((pairwise_le_hits r text).and (pairwise_ne_hits hrule text)).imp ?_
  rintro a b ⟨hle, hne⟩
  -- The order of hits is not strict, but no two of them are equal in it.
  rw [Hit.le_iff] at hle
  change a.start < b.start ∨ a.start = b.start ∧ a.index < b.index
  omega

/-! ### Messages -/

end PatternRule

namespace PatternModule

open PatternRule

/-- What is found in a text: for each entry, the parts that are taken for its pattern alone from
left to right, all of them in order of offset and then of entry. -/
structure IsFound (m : PatternModule) (text : List Char) (found : List Occurrence) : Prop where
  taken : ∀ e ∈ m.patterns, ∃! parts, Greedy (m.Reads e) 0 text parts
  mem_iff : ∀ index part, ⟨index, part⟩ ∈ found ↔
    ∃ e parts, m.patterns[index]? = some e ∧ Greedy (m.Reads e) 0 text parts ∧ part ∈ parts
  sorted : found.Pairwise Occurrence.Before

/-- A message for an occurrence in a node: its span is that of the occurrence in the source, and its
text and severity are those of the entry. -/
structure IsMessage (m : PatternModule) (c : Rule.Context) (place : Node × Occurrence)
    (message : Message) : Prop where
  span_eq : message.span = ⟨place.1.span.start + place.2.part.start,
    place.1.span.start + place.2.part.stop⟩
  slice?_eq : slice? c.source message.span.start message.span.stop = some place.2.part.chars
  of_entry : ∃ e, m.patterns[place.2.index]? = some e ∧
    Fills (m.templateOf e).toList place.2.part.chars message.text.toList ∧
    message.severity = c.forced.getD (m.severityOf e)
  ruleId_eq : message.ruleId = c.ruleId
  position_eq : c.lines.position message.span.start = ⟨message.line, message.column⟩

end PatternModule

namespace PatternRule

variable {m : PatternModule} {r : PatternRule} {text : List Char}

theorem isFound_of_ofModule (hrule : ofModule m = .ok r) (text : List Char) :
    m.IsFound text ((r.hits text).map (Hit.occurrence text)) := by
  constructor
  case taken =>
    intro e he
    obtain ⟨parts, hparts, -⟩ := exists_greedy_reads hrule he text
    exact ⟨parts, hparts, fun parts' h => h.unique (fun _ _ => length_eq_of_reads) hparts⟩
  case mem_iff =>
    intro index part
    rw [List.mem_map]
    constructor
    · rintro ⟨h, hhit, hoccurrence⟩
      obtain ⟨e, parts, p, he, hparts, hp, heq⟩ := exists_of_mem_hits hrule hhit
      rw [heq, occurrence_eq hparts hp] at hoccurrence
      obtain ⟨rfl, rfl⟩ := Occurrence.mk.inj hoccurrence
      exact ⟨e, parts, he, hparts, hp⟩
    · rintro ⟨e, parts, he, hparts, hp⟩
      exact ⟨_, mem_hits hrule he hparts hp, occurrence_eq hparts hp index⟩
  case sorted => exact pairwise_occurrences hrule text

/-- A message in which the match is filled in. -/
theorem fills_fillMatch (template : String) (matched : List Char) :
    Fills template.toList matched (fillMatch template matched).toList := by
  rw [fillMatch, String.toList_ofList]
  exact replaceAll_eq (by decide) matched template.toList

/-- The message for a hit in a node. -/
theorem isMessage_of_mem_hits (hrule : ofModule m = .ok r) (c : Rule.Context) (node : Node)
    {h : Hit} (hhit : h ∈ r.hits (node.raw c.source)) :
    m.IsMessage c (node, h.occurrence (node.raw c.source))
      (c.message ((h.toMatch (h.occurrence (node.raw c.source)).part.chars).finding node)) := by
  obtain ⟨e, parts, p, he, hparts, hp, heq⟩ := exists_of_mem_hits hrule hhit
  have hpart := hparts.slice?_of_mem hp
  have hne := ne_nil_of_reads hrule (List.mem_of_getElem? he) (hparts.exists_of_mem hp).1
  rw [heq, occurrence_eq hparts hp]
  have hspan : node.span.part p.start (byteLength p.chars) =
      ⟨node.span.start + p.start, node.span.start + p.stop⟩ := by
    rw [Span.part, Piece.stop, Nat.add_assoc]
  constructor
  case span_eq => exact hspan
  case slice?_eq =>
    change slice? c.source (node.span.part p.start (byteLength p.chars)).start
      (node.span.part p.start (byteLength p.chars)).stop = some p.chars
    rw [hspan]
    exact Node.slice?_of_raw hpart hne
  case of_entry => exact ⟨e, he, fills_fillMatch _ _, rfl⟩
  case ruleId_eq => rfl
  case position_eq => rfl

/-- A rule that a module describes reports, for each of its node types and each node of that type,
the occurrences of its patterns in the source of the node. -/
theorem messages_of_ofModule (hrule : ofModule m = .ok r) (c : Rule.Context) :
    ∃ found : List Char → List Occurrence, (∀ text, m.IsFound text (found text)) ∧
      (r.toRule.check c).failure = none ∧
      List.Forall₂ (m.IsMessage c)
        (m.nodeTypes.flatMap fun type => (c.document.ofType type).flatMap fun node =>
          (found (node.raw c.source)).map (node, ·))
        ((r.toRule.check c).messages c) := by
  obtain ⟨hnodeTypes, -⟩ := exists_of_ofModule hrule
  refine ⟨fun text => (r.hits text).map (Hit.occurrence text), isFound_of_ofModule hrule, rfl, ?_⟩
  change List.Forall₂ _ _ ((r.check c).map c.message)
  rw [check, hnodeTypes, List.map_flatMap]
  refine List.rel_flatMap (List.forall₂_same.2 fun _ _ => rfl) ?_
  rintro type _ rfl
  beta_reduce
  rw [Rule.Context.scan, List.map_flatMap]
  refine List.rel_flatMap (List.forall₂_same.2 fun _ _ => rfl) ?_
  rintro node _ rfl
  beta_reduce
  rw [search, List.map_map, List.map_map, List.map_map, List.forall₂_map_left_iff,
    List.forall₂_map_right_iff, List.forall₂_same]
  intro h hhit
  exact isMessage_of_mem_hits hrule c node hhit

/-- A module with two patterns that overlap, one of them with a message and the other with a
severity of its own. -/
def overlapModule : PatternModule where
  description := none
  nodeTypes := [.str, .paragraph]
  patterns := [⟨"aB", none, some .info⟩, ⟨"ba", some "\x7bmatch\x7d: é", none⟩]
  caseSensitive := false
  text := none
  severity := some .warning

/-- The rule that the module describes. -/
def overlapRule : PatternRule where
  description := ""
  nodeTypes := overlapModule.nodeTypes
  caseSensitive := false
  patterns := overlapModule.patterns.map overlapModule.patternFor

/-- A context for a text in which the patterns overlap. -/
def overlapContext : Rule.Context where
  ruleId := "overlap"
  document := PlainText.parse "é ABab\nBA".toList
  source := "é ABab\nBA".toList
  lines := .ofText "é ABab\nBA".toList
  filePath := none
  options := .null
  forced := none

theorem overlap_messages :
    ofModule overlapModule = .ok overlapRule ∧
      ∃ found : List Char → List Occurrence, (∀ text, overlapModule.IsFound text (found text)) ∧
        (overlapRule.toRule.check overlapContext).failure = none ∧
        List.Forall₂ (overlapModule.IsMessage overlapContext)
          ([.str, .paragraph].flatMap fun type =>
            (overlapContext.document.ofType type).flatMap fun node =>
              (found (node.raw overlapContext.source)).map (node, ·))
          ((overlapRule.toRule.check overlapContext).messages overlapContext) := by
  have hrule : ofModule overlapModule = .ok overlapRule := by rfl
  exact ⟨hrule, messages_of_ofModule hrule overlapContext⟩

end PatternRule

end ProseLinter
