import Mathlib.Data.List.Sort
import ProseLinter.Document.PlainText
import ProseLinter.Proofs.Rule.Scan
import ProseLinter.Proofs.Text.Occurrence
import ProseLinter.Proofs.Text.Trim

/-!
# What the rule against todo markers reports

The rule searches a folded copy of each text once for every marker, sorts what is found by offset
and length, and keeps the first hit at each offset. What it reports are the shortest occurrences at
their offsets, but for those that contain a text to ignore.

* `NoTodo.Options.IsMarker` : a marker in a text, said of each marker alone;
  `NoTodo.mem_markers_iff` says that these are found.
* `NoTodo.Options.IsFound` : the markers that are reported; `NoTodo.Options.IsFound.unique` says
  that there is one list of them only.
* `NoTodo.messages_of_markers` : the messages of the rule.
-/

namespace ProseLinter.NoTodo

open Text

variable {o : Options} {pattern : String} {text part : List Char} {p q : Piece}

/-! ### Markers in a text -/

namespace Options

/-- Whether a part of a text is a marker: in the same letters, or in ASCII letters of any case. -/
def Reads (o : Options) (pattern : String) (part : List Char) : Prop :=
  if o.caseSensitive then part = pattern.toList else asciiUpper part = asciiUpper pattern.toList

/-- Whether a part of a text is taken for a marker when the text is searched for that marker alone,
from left to right and without overlaps. The empty marker is taken between any two characters and
at both ends. -/
inductive Takes (o : Options) (pattern : String) (text : List Char) : Piece → Prop
  | boundary (hempty : pattern = "") (before after : List Char) (htext : text = before ++ after) :
      Takes o pattern text ⟨byteLength before, []⟩
  | part (hne : pattern ≠ "") {parts : List Piece}
      (hparts : Greedy (o.Reads pattern) 0 text parts) {p : Piece} (hp : p ∈ parts) :
      Takes o pattern text p

/-- A marker in a text: of the parts that are taken at its offset none is shorter. -/
structure IsMarker (o : Options) (text : List Char) (p : Piece) : Prop where
  taken : ∃ pattern ∈ o.effectivePatterns, o.Takes pattern text p
  shortest : ∀ pattern ∈ o.effectivePatterns, ∀ q, o.Takes pattern text q →
    q.start = p.start → p.stop ≤ q.stop

/-- Whether a marker as written is passed over: it contains a text to ignore. -/
def PassesOver (o : Options) (part : List Char) : Prop :=
  ∃ ignored ∈ o.ignorePatterns, ignored.toList <:+: part

/-- What is reported in a text: the markers that are not passed over, in order of offset. Searching
for a marker that is not empty has one outcome. -/
structure IsFound (o : Options) (text : List Char) (found : List Piece) : Prop where
  taken : ∀ pattern ∈ o.effectivePatterns, pattern ≠ "" →
    ∃! parts, Greedy (o.Reads pattern) 0 text parts
  mem_iff : ∀ p, p ∈ found ↔ o.IsMarker text p ∧ ¬ o.PassesOver p.chars
  sorted : found.Pairwise Piece.Before

/-- Whether options look for the same markers in the same letters and ignore the same texts; the
order in which they name them, and how often, may differ. -/
structure Same (o o' : Options) : Prop where
  caseSensitive_eq : o'.caseSensitive = o.caseSensitive
  mem_patterns_iff : ∀ pattern, pattern ∈ o'.effectivePatterns ↔ pattern ∈ o.effectivePatterns
  mem_ignored_iff : ∀ ignored, ignored ∈ o'.ignorePatterns ↔ ignored ∈ o.ignorePatterns

/-- The letter that stands for a character when texts are compared. -/
def foldChar (o : Options) : Char → Char :=
  if o.caseSensitive then id else Char.toUpper

theorem utf8Size_foldChar (o : Options) (c : Char) : (o.foldChar c).utf8Size = c.utf8Size := by
  rw [foldChar]
  split
  · rfl
  · exact utf8Size_toUpper c

theorem fold_eq_map (o : Options) (cs : List Char) : o.fold cs = cs.map o.foldChar := by
  rw [fold, foldChar]
  split
  · rw [List.map_id]
  · rfl

theorem byteLength_fold (o : Options) (cs : List Char) :
    byteLength (o.fold cs) = byteLength cs := by
  rw [fold_eq_map, byteLength_map o.utf8Size_foldChar]

theorem reads_iff : o.Reads pattern part ↔ o.fold part = o.fold pattern.toList := by
  rw [Reads, fold, fold]
  split <;> rfl

theorem ignores_iff : o.ignores part = true ↔ o.PassesOver part := by
  simp only [ignores, PassesOver, List.any_eq_true, contains_iff]

/-- What is found in the folded text are the parts of the text that are taken for the marker. -/
theorem exists_greedy_reads (o : Options) (hne : pattern ≠ "") (text : List Char) :
    ∃ parts, Greedy (o.Reads pattern) 0 text parts ∧
      occurrences (o.fold pattern.toList) (o.fold text) = parts.map (·.start) := by
  have hneedle : o.fold pattern.toList ≠ [] := by simpa [fold_eq_map] using hne
  obtain ⟨parts, hparts, hstarts⟩ := exists_greedy o.utf8Size_foldChar hneedle 0 text
  -- A part is the marker exactly if the folded text has the folded marker in its place.
  have hreads : o.Reads pattern = fun part => part.map o.foldChar = o.fold pattern.toList :=
    funext fun part => propext (by rw [reads_iff, fold_eq_map o part])
  rw [hreads, fold_eq_map o text]
  exact ⟨parts, hparts, hstarts⟩

/-- There is one way only to take the parts for a marker. -/
theorem existsUnique_greedy_reads (o : Options) (hne : pattern ≠ "") (text : List Char) :
    ∃! parts, Greedy (o.Reads pattern) 0 text parts := by
  obtain ⟨parts, hparts, -⟩ := o.exists_greedy_reads hne text
  refine ⟨parts, hparts, fun parts' hparts' => hparts'.unique ?_ hparts⟩
  -- Parts that are the marker are of one length, so where one is taken no other could be.
  intro part other hpart hother
  have h := (reads_iff.1 hpart).trans (reads_iff.1 hother).symm
  rw [fold_eq_map, fold_eq_map] at h
  simpa using congrArg List.length h

namespace Takes

/-- A part that is taken is the slice of the text between its offsets. -/
theorem slice?_eq (h : o.Takes pattern text p) : slice? text p.start p.stop = some p.chars := by
  cases h with
  | boundary _ before after htext =>
    rw [htext]
    simpa [Piece.stop] using slice?_append before [] after
  | part _ hparts hp => exact hparts.slice?_of_mem hp

/-- A part that is taken for a marker is the marker. -/
theorem reads (h : o.Takes pattern text p) : o.Reads pattern p.chars := by
  cases h with
  | boundary hempty =>
    rw [reads_iff, hempty]
    rfl
  | part _ hparts hp => exact (hparts.exists_of_mem hp).1

/-- A part that is taken has as many bytes as the marker. -/
theorem byteLength_eq (h : o.Takes pattern text p) :
    byteLength p.chars = byteLength (o.fold pattern.toList) := by
  rw [← reads_iff.1 h.reads, byteLength_fold]

/-- Which parts are taken for a marker depends on the letters that are told apart only. -/
theorem congr {o' : Options} (hcase : o'.caseSensitive = o.caseSensitive)
    (h : o.Takes pattern text p) : o'.Takes pattern text p := by
  have hreads : o'.Reads pattern = o.Reads pattern :=
    funext fun part => by rw [Reads, Reads, hcase]
  cases h with
  | boundary hempty before after htext => exact .boundary hempty before after htext
  | part hne hparts hp => exact .part hne (hreads ▸ hparts) hp

end Takes

/-- The offsets at which the search finds a marker are those at which a part is taken for it. -/
theorem mem_occurrences_iff {start : Nat} :
    start ∈ occurrences (o.fold pattern.toList) (o.fold text) ↔
      ∃ p, o.Takes pattern text p ∧ p.start = start := by
  by_cases hempty : pattern = ""
  · -- The folded text has its boundaries where the text has them.
    have hneedle : o.fold pattern.toList = [] := by rw [hempty, fold_eq_map]; rfl
    rw [hneedle, occurrences, mem_occurrencesFrom_nil_iff, fold_eq_map]
    constructor
    · rintro ⟨before', after', htext, rfl⟩
      obtain ⟨before, after, rfl, rfl, -⟩ := List.map_eq_append_iff.1 htext
      refine ⟨_, .boundary hempty before after rfl, ?_⟩
      rw [byteLength_map o.utf8Size_foldChar, Nat.zero_add]
    · rintro ⟨p, htakes, rfl⟩
      cases htakes with
      | boundary _ before after htext =>
        refine ⟨before.map o.foldChar, after.map o.foldChar, ?_, ?_⟩
        · rw [htext, List.map_append]
        · rw [byteLength_map o.utf8Size_foldChar, Nat.zero_add]
      | part hne => exact absurd hempty hne
  · -- The search finds the parts of one way to take them, and there is no other.
    obtain ⟨parts, hparts, hstarts⟩ := o.exists_greedy_reads hempty text
    rw [hstarts, List.mem_map]
    constructor
    · rintro ⟨p, hp, hstart⟩
      exact ⟨p, .part hempty hparts hp, hstart⟩
    · rintro ⟨p, htakes, hstart⟩
      cases htakes with
      | boundary hempty' => exact absurd hempty' hempty
      | part _ hparts' hp =>
        rw [(o.existsUnique_greedy_reads hempty text).unique hparts' hparts] at hp
        exact ⟨p, hp, hstart⟩

/-- There is one marker at most at an offset. -/
theorem IsMarker.unique (h : o.IsMarker text p) (h' : o.IsMarker text q)
    (hstart : p.start = q.start) : p = q := by
  obtain ⟨pattern, hpattern, htakes⟩ := h.taken
  obtain ⟨pattern', hpattern', htakes'⟩ := h'.taken
  have hle := h.shortest pattern' hpattern' q htakes' hstart.symm
  have hle' := h'.shortest pattern hpattern p htakes hstart
  exact Piece.eq_of_slice? htakes.slice?_eq htakes'.slice?_eq hstart (Nat.le_antisymm hle hle')

theorem IsMarker.congr {o' : Options} (hsame : o.Same o') (h : o.IsMarker text p) :
    o'.IsMarker text p := by
  obtain ⟨pattern, hpattern, htakes⟩ := h.taken
  refine ⟨⟨pattern, (hsame.mem_patterns_iff pattern).2 hpattern,
    htakes.congr hsame.caseSensitive_eq⟩, ?_⟩
  intro pattern' hpattern' q htakes' hstart
  exact h.shortest pattern' ((hsame.mem_patterns_iff pattern').1 hpattern') q
    (htakes'.congr hsame.caseSensitive_eq.symm) hstart

theorem Same.symm {o' : Options} (h : o.Same o') : o'.Same o :=
  ⟨h.caseSensitive_eq.symm, fun pattern => (h.mem_patterns_iff pattern).symm,
    fun ignored => (h.mem_ignored_iff ignored).symm⟩

theorem Same.passesOver_iff {o' : Options} (h : o.Same o') :
    o'.PassesOver part ↔ o.PassesOver part :=
  exists_congr fun ignored => and_congr_left' (h.mem_ignored_iff ignored)

theorem IsFound.congr {o' : Options} {found : List Piece} (hsame : o.Same o')
    (h : o.IsFound text found) : o'.IsFound text found where
  taken _ _ hne := o'.existsUnique_greedy_reads hne text
  mem_iff p := by
    rw [h.mem_iff, hsame.passesOver_iff]
    exact and_congr_left' ⟨.congr hsame, .congr hsame.symm⟩
  sorted := h.sorted

/-- What is reported in a text is determined. -/
theorem IsFound.unique {found found' : List Piece} (h : o.IsFound text found)
    (h' : o.IsFound text found') : found = found' :=
  h.sorted.eq_of_mem_iff h'.sorted fun p => (h.mem_iff p).trans (h'.mem_iff p).symm

end Options

/-! ### Hits -/

theorem Hit.le_iff {a b : Hit} : Hit.le a b = true ↔ a.1 < b.1 ∨ a.1 = b.1 ∧ a.2 ≤ b.2 := by
  simp [Hit.le]

/-- Whether hits are in order. -/
def Sorted (hits : List Hit) : Prop :=
  hits.Pairwise fun a b => Hit.le a b = true

theorem sorted_mergeSort (hits : List Hit) : Sorted (hits.mergeSort Hit.le) := by
  apply List.pairwise_mergeSort
  · intro a b c hab hbc
    rw [Hit.le_iff] at hab hbc ⊢
    omega
  · intro a b
    rw [Bool.or_eq_true, Hit.le_iff, Hit.le_iff]
    omega

/-- Of hits in order the first has the least offset. -/
theorem Sorted.head_le {a : Hit} {hits : List Hit} (h : Sorted (a :: hits)) :
    ∀ b ∈ a :: hits, a.1 ≤ b.1 := by
  rw [List.forall_mem_cons]
  refine ⟨Nat.le_refl _, fun b hb => ?_⟩
  have hle := Hit.le_iff.1 (List.rel_of_pairwise_cons h hb)
  omega

/-- Of hits in order the shortest at each offset are kept. -/
theorem mem_dedupOffsets_iff {hits : List Hit} (hsorted : Sorted hits) {h : Hit} :
    h ∈ dedupOffsets hits ↔ h ∈ hits ∧ ∀ other ∈ hits, other.1 = h.1 → h.2 ≤ other.2 := by
  fun_induction dedupOffsets hits with
  | case1 => simp
  | case2 a =>
    simp only [List.mem_singleton, forall_eq]
    exact ⟨fun heq => ⟨heq, fun _ => by rw [heq]⟩, And.left⟩
  | case3 a b rest heq ih =>
    -- The second hit is at the offset of the first and no shorter, so it can be left out.
    have heq : a.1 = b.1 := by simpa using heq
    have hle := Hit.le_iff.1 (List.rel_of_pairwise_cons hsorted List.mem_cons_self)
    have hrest : (a :: rest).Sublist (a :: b :: rest) := (List.sublist_cons_self b rest).cons_cons a
    rw [ih (List.Pairwise.sublist hrest hsorted)]
    simp only [List.mem_cons, forall_eq_or_imp]
    constructor
    · rintro ⟨hmem, ha, hmin⟩
      exact ⟨hmem.imp_right .inr, ha, fun hb => by have := ha (heq.trans hb); omega, hmin⟩
    · rintro ⟨rfl | rfl | hmem, ha, hb, hmin⟩
      · exact ⟨.inl rfl, ha, hmin⟩
      · have := ha heq
        exact ⟨.inl (Prod.ext heq.symm (by omega)), ha, hmin⟩
      · exact ⟨.inr hmem, ha, hmin⟩
  | case4 a b rest hne ih =>
    -- The first hit is the only one at its offset.
    have hne : a.1 ≠ b.1 := by simpa using hne
    have hle := hsorted.head_le b (by simp)
    have htail : Sorted (b :: rest) := List.Pairwise.of_cons hsorted
    have hlater := htail.head_le
    rw [List.mem_cons, ih htail, List.mem_cons (l := b :: rest)]
    constructor
    · rintro (rfl | ⟨hmem, hmin⟩)
      · refine ⟨.inl rfl, List.forall_mem_cons.2 ⟨fun _ => Nat.le_refl _, ?_⟩⟩
        intro other hother hoffset
        have := hlater other hother
        omega
      · refine ⟨.inr hmem, List.forall_mem_cons.2 ⟨?_, hmin⟩⟩
        intro hoffset
        have := hlater h hmem
        omega
    · rintro ⟨rfl | hmem, hmin⟩
      · exact .inl rfl
      · exact .inr ⟨hmem, (List.forall_mem_cons.1 hmin).2⟩

/-- Of hits in order one is kept at each offset. -/
theorem pairwise_dedupOffsets {hits : List Hit} (hsorted : Sorted hits) :
    (dedupOffsets hits).Pairwise fun a b => a.1 < b.1 := by
  fun_induction dedupOffsets hits with
  | case1 => exact .nil
  | case2 a => exact List.pairwise_singleton _ a
  | case3 a b rest _ ih =>
    have hrest : (a :: rest).Sublist (a :: b :: rest) := (List.sublist_cons_self b rest).cons_cons a
    exact ih (List.Pairwise.sublist hrest hsorted)
  | case4 a b rest hne ih =>
    have hne : a.1 ≠ b.1 := by simpa using hne
    have hle := hsorted.head_le b (by simp)
    have htail : Sorted (b :: rest) := List.Pairwise.of_cons hsorted
    refine .cons ?_ (ih htail)
    intro c hc
    have := htail.head_le c (mem_of_mem_dedupOffsets hc)
    omega

/-- The hits before any is left out, said of each marker alone. -/
theorem mem_allHits_iff {start length : Nat} :
    (start, length) ∈ allHits o text ↔
      ∃ pattern ∈ o.effectivePatterns, ∃ p, o.Takes pattern text p ∧ p.start = start ∧
        byteLength p.chars = length := by
  simp only [allHits, List.mem_flatMap, List.mem_map, Options.mem_occurrences_iff, Prod.mk.injEq]
  constructor
  · rintro ⟨pattern, hpattern, _, ⟨p, htakes, rfl⟩, rfl, rfl⟩
    exact ⟨pattern, hpattern, p, htakes, rfl, htakes.byteLength_eq⟩
  · rintro ⟨pattern, hpattern, p, htakes, rfl, rfl⟩
    exact ⟨pattern, hpattern, _, ⟨p, htakes, rfl⟩, rfl, htakes.byteLength_eq.symm⟩

/-- The parts of a text at which there are hits. -/
def markers (o : Options) (text : List Char) : List Piece :=
  (hits o text).map fun (start, length) =>
    ⟨start, (slice? text start (start + length)).getD []⟩

/-- The hits in a text are its markers. -/
theorem mem_hits_iff {start length : Nat} :
    (start, length) ∈ hits o text ↔
      ∃ p, o.IsMarker text p ∧ p.start = start ∧ byteLength p.chars = length := by
  rw [hits, mem_dedupOffsets_iff (sorted_mergeSort _)]
  simp only [List.mem_mergeSort]
  rw [mem_allHits_iff]
  -- Of parts at one offset the shorter is the one that stops first.
  constructor
  · rintro ⟨⟨pattern, hpattern, p, htakes, rfl, rfl⟩, hmin⟩
    refine ⟨p, ⟨⟨pattern, hpattern, htakes⟩, ?_⟩, rfl, rfl⟩
    intro pattern' hpattern' q htakes' hstart
    have hle := hmin (q.start, byteLength q.chars)
      (mem_allHits_iff.2 ⟨pattern', hpattern', q, htakes', rfl, rfl⟩) hstart
    rw [Piece.stop, Piece.stop, hstart]
    exact Nat.add_le_add_left hle p.start
  · rintro ⟨p, ⟨⟨pattern, hpattern, htakes⟩, hshortest⟩, rfl, rfl⟩
    refine ⟨⟨pattern, hpattern, p, htakes, rfl, rfl⟩, ?_⟩
    rintro ⟨start, length⟩ hother hstart
    obtain ⟨pattern', hpattern', q, htakes', rfl, rfl⟩ := mem_allHits_iff.1 hother
    have hle := hshortest pattern' hpattern' q htakes' hstart
    rw [Piece.stop, Piece.stop, show q.start = p.start from hstart] at hle
    exact Nat.le_of_add_le_add_left hle

theorem mem_markers_iff : p ∈ markers o text ↔ o.IsMarker text p := by
  have hcut {p : Piece} (h : o.IsMarker text p) :
      (slice? text p.start (p.start + byteLength p.chars)).getD [] = p.chars := by
    obtain ⟨pattern, -, htakes⟩ := h.taken
    rw [← Piece.stop, htakes.slice?_eq]
    rfl
  rw [markers, List.mem_map]
  constructor
  · rintro ⟨⟨start, length⟩, hhit, rfl⟩
    obtain ⟨p, hp, rfl, rfl⟩ := mem_hits_iff.1 hhit
    dsimp only
    rwa [hcut hp]
  · intro hp
    exact ⟨_, mem_hits_iff.2 ⟨p, hp, rfl, rfl⟩, by dsimp only; rw [hcut hp]⟩

theorem pairwise_markers (o : Options) (text : List Char) :
    (markers o text).Pairwise Piece.Before := by
  rw [markers, List.pairwise_map]
  exact pairwise_dedupOffsets (sorted_mergeSort _)

/-! ### Messages -/

/-- The markers in a text that are reported. -/
def found (o : Options) (text : List Char) : List Piece :=
  (markers o text).filter fun p => !o.ignores p.chars

theorem mem_found_iff : p ∈ found o text ↔ o.IsMarker text p ∧ ¬ o.PassesOver p.chars := by
  rw [found, List.mem_filter, mem_markers_iff, Bool.not_eq_true', ← Bool.not_eq_true,
    Options.ignores_iff]

theorem isFound_found (o : Options) (text : List Char) : o.IsFound text (found o text) where
  taken _ _ hne := o.existsUnique_greedy_reads hne text
  mem_iff _ := mem_found_iff
  sorted := (pairwise_markers o text).filter _

/-- The match for a marker. -/
def toMatch (p : Piece) : Match :=
  ⟨p.start, p.chars, messageText p.chars, .warning⟩

/-- The search matches the markers that are reported. -/
theorem search_eq_map (o : Options) (text : List Char) :
    search o text = (found o text).map toMatch := by
  rw [found, ← List.filterMap_eq_map, List.filterMap_filter, markers, List.filterMap_map, search]
  refine List.filterMap_congr fun hit _ => ?_
  simp only [match?, Function.comp_apply, toMatch]
  cases o.ignores _ <;> rfl

/-- The message for a marker in a node: it is about the marker and quotes it without the blanks
around it. -/
structure IsMessage (c : Rule.Context) (place : Node × Piece) (message : Message) : Prop where
  isAbout : c.IsAbout place message
  quotes : ∃ lead quoted trail, IsTrimmed place.2.chars lead quoted trail ∧
    message.text =
      "Found '" ++ String.ofList quoted ++ "' comment. Consider resolving this before committing."
  severity_eq : message.severity = c.forced.getD .warning

theorem isMessage_of_mem_found {c : Rule.Context} {node : Node}
    (hp : p ∈ found o (node.raw c.source)) :
    IsMessage c (node, p) (c.message ((toMatch p).finding node)) where
  isAbout := by
    have hmem : toMatch p ∈ search o (node.raw c.source) := by
      rw [search_eq_map]
      exact List.mem_map_of_mem hp
    exact Rule.Context.isAbout_message_finding (readsIn_of_mem_search hmem).1
  quotes := by
    obtain ⟨trail, htrimmed⟩ := exists_isTrimmed p.chars
    exact ⟨p.chars.takeWhile isBlank, trim p.chars, trail, htrimmed, rfl⟩
  severity_eq := rfl

/-- The search depends on which markers are looked for and which texts are ignored only. -/
theorem search_congr {o' : Options} (hsame : o.Same o') : search o' = search o := by
  funext text
  rw [search_eq_map, search_eq_map]
  rw [(isFound_found o' text).unique ((isFound_found o text).congr hsame)]

/-- What the rule has to say with options that can be read. -/
theorem rule_check_of_readOptions {c : Rule.Context}
    (hoptions : c.readOptions {} Options.decode = .ok o) :
    rule.check c = ⟨c.scan .str (search o), none⟩ :=
  congrArg Rule.Report.ofExcept (check_of_readOptions hoptions)

/-- With options that can be read, the rule reports in each literal of a document the markers that
are not passed over, in order. What it has to say depends neither on the order of the markers it
looks for nor on their repetition. -/
theorem messages_of_markers {c : Rule.Context}
    (hoptions : c.readOptions {} Options.decode = .ok o) :
    (∃ found : List Char → List Piece, (∀ text, o.IsFound text (found text)) ∧
      (rule.check c).failure = none ∧
      List.Forall₂ (IsMessage c)
        ((c.document.ofType .str).flatMap fun node => (found (node.raw c.source)).map (node, ·))
        ((rule.check c).messages c)) ∧
    ∀ options o', (c.withOptions options).readOptions {} Options.decode = .ok o' → o.Same o' →
      rule.check (c.withOptions options) = rule.check c := by
  rw [rule_check_of_readOptions hoptions]
  constructor
  · refine ⟨found o, isFound_found o, rfl, ?_⟩
    exact Rule.Context.forall₂_messages_scan (search_eq_map o) fun _ _ => isMessage_of_mem_found
  · intro options o' hoptions' hsame
    rw [rule_check_of_readOptions hoptions', search_congr hsame]
    rfl

/-- A context for a text in which markers begin and contain each other, and one of them is empty. -/
def nestedContext : Rule.Context where
  ruleId := "no-todo"
  document := PlainText.parse "é Todo: x\nFIX".toList
  source := "é Todo: x\nFIX".toList
  lines := .ofText "é Todo: x\nFIX".toList
  filePath := none
  options := Json.ofFields
    [("patterns", .array [.string "TODO:", .string "todo", .string "", .string "fix"]),
     ("ignore_patterns", .array [.string "X"])]
  forced := none

/-- The options of the context. -/
def nestedOptions : Options where
  patterns := ["TODO:", "todo", "", "fix"]
  ignorePatterns := ["X"]

/-- The same markers in another order, and one of them twice. -/
def shuffledOptions : Options where
  patterns := ["fix", "", "todo", "TODO:", "todo"]
  ignorePatterns := ["X"]

/-- The JSON form of the options in another order. -/
def shuffledJson : Json :=
  Json.ofFields
    [("patterns", .array
      [.string "fix", .string "", .string "todo", .string "TODO:", .string "todo"]),
     ("ignore_patterns", .array [.string "X"])]

theorem nested_messages :
    nestedContext.readOptions {} Options.decode = .ok nestedOptions ∧
      (∃ found : List Char → List Piece, (∀ text, nestedOptions.IsFound text (found text)) ∧
        (rule.check nestedContext).failure = none ∧
        List.Forall₂ (IsMessage nestedContext)
          ((nestedContext.document.ofType .str).flatMap fun node =>
            (found (node.raw nestedContext.source)).map (node, ·))
          ((rule.check nestedContext).messages nestedContext)) ∧
      (nestedContext.withOptions shuffledJson).readOptions {} Options.decode =
        .ok shuffledOptions ∧
      nestedOptions.Same shuffledOptions ∧
      rule.check (nestedContext.withOptions shuffledJson) = rule.check nestedContext := by
  have hoptions : nestedContext.readOptions {} Options.decode = .ok nestedOptions := by rfl
  have hshuffled : (nestedContext.withOptions shuffledJson).readOptions {} Options.decode =
      .ok shuffledOptions := by rfl
  have hsame : nestedOptions.Same shuffledOptions := by
    refine ⟨rfl, fun pattern => ?_, fun ignored => Iff.rfl⟩
    simp only [shuffledOptions, nestedOptions, Options.effectivePatterns, List.isEmpty_cons,
      Bool.false_eq_true, if_false, List.mem_cons, List.not_mem_nil, or_false]
    tauto
  obtain ⟨hmessages, hshuffle⟩ := messages_of_markers hoptions
  exact ⟨hoptions, hmessages, hshuffled, hsame, hshuffle _ _ hshuffled hsame⟩

end ProseLinter.NoTodo
