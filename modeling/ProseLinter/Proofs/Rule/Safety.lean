import ProseLinter.Proofs.Document.PositionLimit
import ProseLinter.Proofs.Rule.Search

/-!
# Safety of checks

The spans of a document need not fit its source: they may stop past its end or before they start,
begin inside a character, or lie outside of the node above. A check still makes only cuts that are
possible and only sums of offsets that have 32 bits. To say so, every check has a form here in which
each cut and each sum may fail.

* `Rule.Context.scan?_eq` : no cut and no sum fails in a scan of a document.
* `Rule.Context.isFound_of_readsIn` : what is known of a finding; where the node's span fits the
  source, the finding's span lies inside it and covers the text that was matched.
* `checks_run_safely` : both hold for the checks of all rules.
-/

namespace ProseLinter

open Text

/-! ### Offsets with 32 bits -/

/-- An offset that has 32 bits. -/
def Span.offset? (offset : Nat) : Option Nat :=
  if offset < limit then some offset else none

/-- The finding for a match in the part of the source that a node spans; none when an offset or a
sum of offsets has more than 32 bits. -/
def Match.finding? (m : Match) (node : Node) : Option Finding := do
  let offset ← Span.offset? m.start
  let start ← Span.offset? (node.span.start + offset)
  let length ← Span.offset? (byteLength m.chars)
  let stop ← Span.offset? (start + length)
  return ⟨⟨start, stop⟩, m.text, m.severity⟩

/-- All offsets have 32 bits where the greatest sum does. -/
theorem Match.finding?_eq {m : Match} {node : Node}
    (h : node.span.start + m.start + byteLength m.chars < Span.limit) :
    m.finding? node = some (m.finding node) := by
  have hoffset {offset : Nat} (hle : offset ≤ node.span.start + m.start + byteLength m.chars) :
      Span.offset? offset = some offset := if_pos (Nat.lt_of_le_of_lt hle h)
  have hstart : Span.offset? m.start = some m.start := hoffset (by omega)
  have hsum : Span.offset? (node.span.start + m.start) = some (node.span.start + m.start) :=
    hoffset (by omega)
  have hlength : Span.offset? (byteLength m.chars) = some (byteLength m.chars) :=
    hoffset (by omega)
  have hstop : Span.offset? (node.span.start + m.start + byteLength m.chars) =
      some (node.span.start + m.start + byteLength m.chars) := hoffset (Nat.le_refl _)
  simp only [finding?, Option.bind_eq_bind, hstart, hsum, hlength, hstop, Option.bind_some]
  rfl

namespace Rule.Context

variable {c : Context}

/-- The offsets of a context have 32 bits: those of the spans, and that of the end of the source, of
which the lines are. -/
structure Addressable (c : Context) : Prop where
  source_lt : byteLength c.source < Span.limit
  span_lt : ∀ node ∈ c.document.walk, node.span.start < Span.limit ∧ node.span.stop < Span.limit
  lines_eq : c.lines = .ofText c.source

/-- The findings for what a search matches in the nodes of a type; none when the search or a sum of
offsets fails. -/
def scan? (c : Context) (type : NodeType) (search? : List Char → Option (List Match)) :
    Option (List Finding) := do
  let found ← (c.document.ofType type).mapM fun node => do
    let matched ← search? (node.raw c.source)
    matched.mapM (·.finding? node)
  return found.flatten

/-- A finding for a match in a node of the document, where `Finds` says what is matched. -/
structure IsFound (c : Context) (Finds : Node → Match → Prop) (f : Finding) (node : Node)
    (m : Match) : Prop where
  node_mem : node ∈ c.document.walk
  finds : Finds node m
  finding_eq : f = m.finding node
  stop_le : m.chars ≠ [] → f.span.stop ≤ node.span.stop
  /-- The span lies inside that of the node and covers the match, if that of the node fits. -/
  covers : ∀ raw, slice? c.source node.span.start node.span.stop = some raw →
    node.span.start ≤ f.span.start ∧ f.span.stop ≤ node.span.stop ∧
      slice? c.source f.span.start f.span.stop = some m.chars
  /-- The column counts the characters of a slice of the source. -/
  column_eq : ∃ start stop line, slice? c.source start stop = some line ∧
    (c.lines.countedPosition f.span.start).column = line.length + 1
  /-- Line and column have 32 bits too, and so they are as they are counted; only behind a source of
  the greatest length they may not. -/
  position_eq : m.chars ≠ [] ∨ byteLength c.source + 1 < Span.limit →
    (c.lines.countedPosition f.span.start).Fits ∧
      (⟨(c.message f).line, (c.message f).column⟩ : Position) =
        c.lines.countedPosition f.span.start

/-- A check whose run, in which each cut and each sum may fail, does not fail, and whose findings
are all for matches in the document. -/
structure RunsSafely (c : Context) (run? : Option Report) (report : Report)
    (Finds : Node → Match → Prop) : Prop where
  run_eq : run? = some report
  isFound : ∀ f ∈ report.findings, ∃ node m, c.IsFound Finds f node m

end Rule.Context

/-! ### Matches in nodes -/

/-- Nothing but the empty match at its start stands in the empty text. -/
theorem Match.eq_of_readsIn_nil {m : Match} (h : m.ReadsIn []) : m.start = 0 ∧ m.chars = [] := by
  obtain ⟨before, after, hnil, hstart, -⟩ := slice?_eq_some_iff.1 h
  obtain ⟨hbefore, hchars, -⟩ : before = [] ∧ m.chars = [] ∧ after = [] := by
    simpa using hnil.symm
  exact ⟨by rw [← hstart, hbefore, byteLength_nil], hchars⟩

namespace Rule.Context

variable {c : Context} {node : Node} {m : Match}

/-- What a match in a node is: part of the node's span, if that fits the source, and empty
otherwise. -/
theorem readsIn_raw (h : m.ReadsIn (node.raw c.source)) :
    (∃ raw, slice? c.source node.span.start node.span.stop = some raw ∧ m.ReadsIn raw) ∨
      slice? c.source node.span.start node.span.stop = none ∧ m.start = 0 ∧ m.chars = [] := by
  rw [Node.raw] at h
  cases hraw : slice? c.source node.span.start node.span.stop with
  | none =>
    rw [hraw] at h
    exact .inr ⟨rfl, Match.eq_of_readsIn_nil h⟩
  | some raw =>
    rw [hraw] at h
    exact .inl ⟨raw, rfl, h⟩

/-- A match in a part of the source does not reach past the span of that part. -/
theorem add_le_of_readsIn {raw : List Char}
    (hraw : slice? c.source node.span.start node.span.stop = some raw) (h : m.ReadsIn raw) :
    node.span.start + m.start + byteLength m.chars ≤ node.span.stop := by
  have hstop := stop_of_slice? hraw
  have hle := stop_le_of_slice? h
  omega

/-- The sums of offsets for a match have 32 bits. -/
theorem add_lt_of_readsIn (hc : c.Addressable) (hnode : node ∈ c.document.walk)
    (h : m.ReadsIn (node.raw c.source)) :
    node.span.start + m.start + byteLength m.chars < Span.limit := by
  obtain ⟨hstart, hstop⟩ := hc.span_lt node hnode
  rcases readsIn_raw h with ⟨raw, hraw, hreads⟩ | ⟨-, hzero, hnil⟩
  · exact Nat.lt_of_le_of_lt (add_le_of_readsIn hraw hreads) hstop
  · rwa [hzero, hnil, byteLength_nil]

/-- What is known of the finding for a match. -/
theorem isFound_of_readsIn {Finds : Node → Match → Prop} (hc : c.Addressable)
    (hnode : node ∈ c.document.walk) (hfinds : Finds node m)
    (h : m.ReadsIn (node.raw c.source)) : c.IsFound Finds (m.finding node) node m where
  node_mem := hnode
  finds := hfinds
  finding_eq := rfl
  stop_le hne := by
    rcases readsIn_raw h with ⟨raw, hraw, hreads⟩ | ⟨-, -, hnil⟩
    · exact add_le_of_readsIn hraw hreads
    · exact absurd hnil hne
  covers raw hraw := by
    rw [Node.raw, hraw] at h
    refine ⟨Nat.le_add_right .., add_le_of_readsIn hraw h, ?_⟩
    have hslice := slice?_of_slice? hraw h
    rwa [← Nat.add_assoc] at hslice
  column_eq := by
    obtain ⟨start, stop, line, -, hline, hcolumn⟩ :=
      LineIndex.exists_slice?_of_countedPosition c.source (m.finding node).span.start
    exact ⟨start, stop, line, hline, by rw [hc.lines_eq, hcolumn]⟩
  position_eq hroom := by
    have hsource := hc.source_lt
    have hend := byteLength_within_le_byteLength c.source (m.finding node).span.start
    have hbytes : byteLength (within c.source (m.finding node).span.start) + 1 < Span.limit := by
      rcases hroom with hne | hshort
      · rcases readsIn_raw h with ⟨raw, hraw, hreads⟩ | ⟨-, -, hnil⟩
        -- A match that is not empty leaves room for one more byte.
        · have hle := add_le_of_readsIn hraw hreads
          have hstop := stop_le_of_slice? hraw
          have hwithin := byteLength_within_le c.source (m.finding node).span.start
          have hpos : 0 < byteLength m.chars :=
            Nat.pos_of_ne_zero fun hzero => hne (byteLength_eq_zero.1 hzero)
          have hstart : (m.finding node).span.start = node.span.start + m.start := rfl
          omega
        · exact absurd hnil hne
      · omega
    obtain ⟨hline, hcolumn⟩ :=
      LineIndex.countedPosition_le c.source (m.finding node).span.start
    rw [← hc.lines_eq] at hline hcolumn
    have hfits : (c.lines.countedPosition (m.finding node).span.start).Fits :=
      ⟨Nat.lt_of_le_of_lt hline hbytes, Nat.lt_of_le_of_lt hcolumn hbytes⟩
    exact ⟨hfits, Position.wrapped_eq_self_iff.2 hfits⟩

/-! ### Scans -/

variable {search? : List Char → Option (List Match)} {search : List Char → List Match}
  {type : NodeType}

theorem mem_walk_of_mem_ofType (h : node ∈ c.document.ofType type) : node ∈ c.document.walk :=
  (List.mem_filter.1 h).1

/-- Where a search makes only cuts that are possible, and matches what stands in the text, no sum of
offsets fails in a scan. -/
theorem scan?_eq (hc : c.Addressable) (hsearch : ∀ text, search? text = some (search text))
    (hreads : ∀ text, ∀ m ∈ search text, m.ReadsIn text) :
    c.scan? type search? = some (c.scan type search) := by
  have hnode : ∀ node ∈ c.document.ofType type,
      (do
        let matched ← search? (node.raw c.source)
        matched.mapM (·.finding? node)) =
      some ((search (node.raw c.source)).map (·.finding node)) := by
    intro node hnode
    rw [hsearch]
    refine mapM_eq_some_map fun m hm => Match.finding?_eq ?_
    exact add_lt_of_readsIn hc (mem_walk_of_mem_ofType hnode) (hreads _ m hm)
  rw [scan?, mapM_eq_some_map hnode, scan, List.flatMap_def]
  rfl

/-- The findings of a scan are for matches in nodes of its type. -/
theorem isFound_of_mem_scan {Finds : Node → Match → Prop} (hc : c.Addressable)
    (hreads : ∀ text, ∀ m ∈ search text, m.ReadsIn text)
    (hfinds : ∀ node, node.type = type → ∀ m ∈ search (node.raw c.source), Finds node m)
    {f : Finding} (hf : f ∈ c.scan type search) : ∃ node m, c.IsFound Finds f node m := by
  obtain ⟨node, hnode, hfound⟩ := List.mem_flatMap.1 hf
  obtain ⟨m, hm, rfl⟩ := List.mem_map.1 hfound
  have htype : node.type = type := by simpa using (List.mem_filter.1 hnode).2
  exact ⟨node, m, isFound_of_readsIn hc (mem_walk_of_mem_ofType hnode) (hfinds node htype m hm)
    (hreads _ m hm)⟩

/-- A check that scans the nodes of a type runs safely. -/
theorem runsSafely_scan {Finds : Node → Match → Prop} (hc : c.Addressable)
    (hsearch : ∀ text, search? text = some (search text))
    (hreads : ∀ text, ∀ m ∈ search text, m.ReadsIn text)
    (hfinds : ∀ node, node.type = type → ∀ m ∈ search (node.raw c.source), Finds node m) :
    c.RunsSafely ((c.scan? type search?).map (⟨·, none⟩)) ⟨c.scan type search, none⟩ Finds where
  run_eq := by rw [scan?_eq hc hsearch hreads, Option.map_some]
  isFound _ hf := isFound_of_mem_scan hc hreads hfinds hf

/-- A check that fails without findings runs safely. -/
theorem runsSafely_failed (c : Context) (e : RuleError) (Finds : Node → Match → Prop) :
    c.RunsSafely (some (.ofExcept (.error e))) (.ofExcept (.error e)) Finds where
  run_eq := rfl
  isFound _ hf := nomatch hf

end Rule.Context

/-! ### The rules -/

/-- The check in which each cut and each sum may fail. -/
def NoTodo.check? (c : Rule.Context) : Option Rule.Report :=
  match c.readOptions {} Options.decode with
  | .error e => some (.ofExcept (.error e))
  | .ok o => (c.scan? .str (search? o)).map (⟨·, none⟩)

/-- What the rule matches in a node. -/
def NoTodo.Finds (c : Rule.Context) (node : Node) (m : Match) : Prop :=
  node.type = .str ∧ ∃ o, c.readOptions {} Options.decode = .ok o ∧ Matched o m

theorem NoTodo.runsSafely {c : Rule.Context} (hc : c.Addressable) :
    c.RunsSafely (check? c) (rule.check c) (Finds c) := by
  cases ho : c.readOptions {} Options.decode with
  | error e =>
    simp only [check?, rule, ho, check_of_readOptions_error ho]
    exact c.runsSafely_failed e _
  | ok o =>
    simp only [check?, rule, ho, check_of_readOptions ho]
    exact Rule.Context.runsSafely_scan hc (search?_eq o)
      (fun _ _ hm => (readsIn_of_mem_search hm).1)
      (fun _ htype _ hm => ⟨htype, o, ho, (readsIn_of_mem_search hm).2⟩)

/-- The check in which each cut and each sum may fail. -/
def SentenceLength.check? (c : Rule.Context) : Option Rule.Report :=
  match c.readOptions {} Options.decode with
  | .error e => some (.ofExcept (.error e))
  | .ok o =>
    if o.max = 0 then
      some (.ofExcept (.error (.invalidOptions c.ruleId "`max` must be greater than zero")))
    else (c.scan? .paragraph (search? o.max)).map (⟨·, none⟩)

/-- What the rule matches in a node. -/
def SentenceLength.Finds (c : Rule.Context) (node : Node) (m : Match) : Prop :=
  node.type = .paragraph ∧ ∃ o, c.readOptions {} Options.decode = .ok o ∧
    Matched o.max (node.raw c.source) m

theorem SentenceLength.runsSafely {c : Rule.Context} (hc : c.Addressable) :
    c.RunsSafely (check? c) (rule.check c) (Finds c) := by
  cases ho : c.readOptions {} Options.decode with
  | error e =>
    simp only [check?, rule, ho, check_of_readOptions_error ho]
    exact c.runsSafely_failed e _
  | ok o =>
    simp only [check?, rule, ho, check_of_readOptions ho]
    split
    · exact c.runsSafely_failed _ _
    · exact Rule.Context.runsSafely_scan hc (search?_eq o.max)
        (fun _ _ hm => (readsIn_of_mem_search hm).1)
        (fun _ htype _ hm => ⟨htype, o, ho, (readsIn_of_mem_search hm).2⟩)

/-- The check in which each cut and each sum may fail. -/
def NoDoubledWord.check? (c : Rule.Context) : Option Rule.Report :=
  (c.scan? .str search?).map (⟨·, none⟩)

/-- What the rule matches in a node. -/
def NoDoubledWord.Finds (c : Rule.Context) (node : Node) (m : Match) : Prop :=
  node.type = .str ∧ Matched (node.raw c.source) m

theorem NoDoubledWord.runsSafely {c : Rule.Context} (hc : c.Addressable) :
    c.RunsSafely (check? c) (rule.check c) (Finds c) :=
  Rule.Context.runsSafely_scan hc search?_eq (fun _ _ hm => (readsIn_of_mem_search hm).1)
    (fun _ htype _ hm => ⟨htype, (readsIn_of_mem_search hm).2⟩)

/-- The check in which each cut and each sum may fail. -/
def PatternRule.check? (r : PatternRule) (c : Rule.Context) : Option Rule.Report := do
  let found ← r.nodeTypes.mapM fun type => c.scan? type r.search?
  return ⟨found.flatten, none⟩

/-- What the rule matches in a node, and that is never empty. -/
def PatternRule.Finds (r : PatternRule) (node : Node) (m : Match) : Prop :=
  node.type ∈ r.nodeTypes ∧ r.Matched m ∧ m.chars ≠ []

theorem PatternRule.runsSafely {c : Rule.Context} {m : PatternModule} {r : PatternRule}
    (hc : c.Addressable) (h : ofModule m = .ok r) :
    c.RunsSafely (r.check? c) (r.toRule.check c) r.Finds where
  run_eq := by
    have hscan : ∀ type ∈ r.nodeTypes, c.scan? type r.search? = some (c.scan type r.search) :=
      fun type _ => Rule.Context.scan?_eq hc r.search?_eq
        fun _ _ hm => (readsIn_of_mem_search hm).1
    have hreport : r.toRule.check c =
        ⟨(r.nodeTypes.map fun type => c.scan type r.search).flatten, none⟩ := by
      rw [← List.flatMap_def]
      rfl
    -- The scans for all types of nodes make one report.
    rw [check?, mapM_eq_some_map hscan, hreport]
    rfl
  isFound f hf := by
    obtain ⟨type, htype, hscan⟩ := List.mem_flatMap.1 hf
    refine Rule.Context.isFound_of_mem_scan hc (fun _ _ hm => (readsIn_of_mem_search hm).1) ?_
      hscan
    intro node hnode m hm
    have hmatched := (readsIn_of_mem_search hm).2
    -- A match that is empty would be one of an empty pattern, and modules with such are refused.
    refine ⟨hnode ▸ htype, hmatched, fun hnil => ?_⟩
    obtain ⟨p, hp, hfold, -⟩ := hmatched
    refine needle_ne_nil_of_ofModule h p hp ?_
    rw [← hfold, hnil, fold]
    split <;> rfl

/-- The checks of all rules run safely on every document of every source, with whatever options:
the run in which each cut and each sum may fail does not fail, and every finding is for what the
rule matched in a node. -/
theorem checks_run_safely (c : Rule.Context) (hc : c.Addressable) :
    c.RunsSafely (NoTodo.check? c) (NoTodo.rule.check c) (NoTodo.Finds c) ∧
      c.RunsSafely (SentenceLength.check? c) (SentenceLength.rule.check c)
        (SentenceLength.Finds c) ∧
      c.RunsSafely (NoDoubledWord.check? c) (NoDoubledWord.rule.check c) (NoDoubledWord.Finds c) ∧
      ∀ m r, PatternRule.ofModule m = .ok r →
        c.RunsSafely (r.check? c) (r.toRule.check c) r.Finds :=
  ⟨NoTodo.runsSafely hc, SentenceLength.runsSafely hc, NoDoubledWord.runsSafely hc,
    fun _ _ h => PatternRule.runsSafely hc h⟩

/-- A context whose document has spans that do not fit its source: one goes backwards, one lies past
the end, and one begins inside a character. -/
def strayContext : Rule.Context where
  ruleId := "no-todo"
  document := .parent .document ⟨30, 10⟩
    [.leaf .str ⟨0, 10⟩, .leaf .str ⟨4000000000, 4294967295⟩, .leaf .str ⟨1, 8⟩, .leaf .str ⟨9, 3⟩]
  source := "é TODO: x".toList
  lines := .ofText "é TODO: x".toList
  filePath := none
  options := .null
  forced := none

/-- The finding in the only node whose span fits. -/
def strayFinding : Finding where
  span := ⟨3, 8⟩
  text := "Found 'TODO:' comment. Consider resolving this before committing."
  severity := .warning

theorem strayContext_runs_safely :
    strayContext.Addressable ∧
      NoTodo.check? strayContext = some (NoTodo.rule.check strayContext) ∧
      (NoTodo.rule.check strayContext).findings = [strayFinding] ∧
      ∃ node m, strayContext.IsFound (NoTodo.Finds strayContext) strayFinding node m := by
  have hc : strayContext.Addressable := ⟨by decide, by decide, rfl⟩
  have hfindings : (NoTodo.rule.check strayContext).findings = [strayFinding] := by
    decide +kernel
  have hsafe := (checks_run_safely strayContext hc).1
  have hfound := hsafe.isFound strayFinding (by rw [hfindings]; exact List.mem_singleton_self _)
  exact ⟨hc, hsafe.run_eq, hfindings, hfound⟩

end ProseLinter
