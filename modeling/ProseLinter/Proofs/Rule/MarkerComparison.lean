import Mathlib.Data.List.Sort
import ProseLinter.Proofs.Rule.Locality
import ProseLinter.Proofs.Rule.MarkerReport

/-!
# Checks against todo markers compared

What the rule reports with some options and what it reports with others, or of another source.

* `NoTodo.Options.exists_isMarker` : where a part is taken there is a marker, maybe a shorter one.
* `NoTodo.messages_of_more_options` : more markers to look for make more offsets reported, and more
  texts to ignore make fewer messages.
* `NoTodo.Options.exists_isMarker_of_fold_eq` : texts that differ in the case of letters have the
  same markers.
* `NoTodo.spansOn_eq_iff` : when sources that differ in the case of letters have the same spans
  reported. Texts to ignore are compared as they are written, so it may be that they have not:
  `NoTodo.todo_ignored_in_capitals_only`.
-/

namespace ProseLinter

open Text
open scoped List

/-- The spans that a rule reports of a source with a tree, in order. -/
def Rule.spansOn (rule : Rule) (c : Context) (source : List Char) (document : Node) : List Span :=
  ((rule.check (c.on source document)).messages (c.on source document)).map (·.span)

namespace NoTodo

variable {o o' : Options} {pattern : String} {text text' : List Char} {p q : Piece}

/-! ### More options -/

/-- Of two lists that are sorted strictly, one holds the members of the other in their order if it
holds them at all. -/
theorem sublist_of_subset {α : Type} {r : α → α → Prop} [Std.Irrefl r] [Std.Antisymm r]
    {xs ys : List α} (hxs : xs.Pairwise r) (hys : ys.Pairwise r) (h : xs ⊆ ys) : xs <+ ys :=
  List.sublist_of_subperm_of_pairwise (List.subperm_of_subset hxs.nodup h) hxs hys

namespace Options

/-- Where a part is taken for a marker, a marker starts that goes no further. -/
theorem exists_isMarker (hpattern : pattern ∈ o.effectivePatterns)
    (htakes : o.Takes pattern text p) :
    ∃ q, o.IsMarker text q ∧ q.start = p.start ∧ q.stop ≤ p.stop := by
  -- As long as another part at the offset is shorter, that one is looked at instead.
  induction hstop : p.stop using Nat.strong_induction_on generalizing pattern p with
  | _ stop ih =>
    subst hstop
    by_cases hshortest : ∀ pattern ∈ o.effectivePatterns, ∀ q, o.Takes pattern text q →
        q.start = p.start → p.stop ≤ q.stop
    · exact ⟨p, ⟨⟨pattern, hpattern, htakes⟩, hshortest⟩, rfl, Nat.le_refl p.stop⟩
    · push Not at hshortest
      obtain ⟨pattern', hpattern', p', htakes', hstart, hlt⟩ := hshortest
      obtain ⟨q, hq, hqstart, hle⟩ := ih p'.stop hlt hpattern' htakes' rfl
      exact ⟨q, hq, hqstart.trans hstart, Nat.le_trans hle (Nat.le_of_lt hlt)⟩

/-- Options that look for more markers find at each offset at least a marker that begins the other
one. -/
theorem IsMarker.exists_prefix (hcase : o'.caseSensitive = o.caseSensitive)
    (hmore : o.effectivePatterns ⊆ o'.effectivePatterns) (h : o.IsMarker text p) :
    ∃ q, o'.IsMarker text q ∧ q.start = p.start ∧ q.chars <+: p.chars := by
  obtain ⟨pattern, hpattern, htakes⟩ := h.taken
  obtain ⟨q, hq, hstart, hle⟩ := exists_isMarker (hmore hpattern) (htakes.congr hcase)
  obtain ⟨pattern', -, htakes'⟩ := hq.taken
  have hslice := htakes'.slice?_eq
  rw [hstart] at hslice
  exact ⟨q, hq, hstart, prefix_of_slice? hslice htakes.slice?_eq hle⟩

/-- What contains a part that is passed over is passed over, also by options that ignore more. -/
theorem PassesOver.mono {part whole : List Char} (hmore : o.ignorePatterns ⊆ o'.ignorePatterns)
    (hwithin : part <:+: whole) (h : o.PassesOver part) : o'.PassesOver whole := by
  obtain ⟨ignored, hmem, hin⟩ := h
  exact ⟨ignored, hmore hmem, hin.trans hwithin⟩

end Options

/-- With more markers to look for no offset is lost. -/
theorem map_start_found_sublist (hcase : o'.caseSensitive = o.caseSensitive)
    (hmore : o.effectivePatterns ⊆ o'.effectivePatterns)
    (hignored : o'.ignorePatterns ⊆ o.ignorePatterns) (text : List Char) :
    (found o text).map (·.start) <+ (found o' text).map (·.start) := by
  have hsorted (o : Options) : ((found o text).map (·.start)).Pairwise (· < ·) :=
    List.pairwise_map.2 (isFound_found o text).sorted
  apply sublist_of_subset (hsorted o) (hsorted o')
  intro start hstart
  obtain ⟨p, hp, rfl⟩ := List.mem_map.1 hstart
  obtain ⟨hmarker, hkept⟩ := mem_found_iff.1 hp
  obtain ⟨q, hq, hqstart, hprefix⟩ := hmarker.exists_prefix hcase hmore
  -- The marker that is found now is a part of the one before, so it holds no more texts to ignore.
  have hqkept : ¬ o'.PassesOver q.chars := fun h => hkept (h.mono hignored hprefix.isInfix)
  exact List.mem_map.2 ⟨q, mem_found_iff.2 ⟨hq, hqkept⟩, hqstart⟩

/-- With more texts to ignore nothing else is found. -/
theorem found_sublist (hcase : o'.caseSensitive = o.caseSensitive)
    (hpatterns : o'.patterns = o.patterns) (hmore : o.ignorePatterns ⊆ o'.ignorePatterns)
    (text : List Char) : found o' text <+ found o text := by
  have hall : markers o' text = markers o text := by
    simp only [markers, hits, allHits, Options.effectivePatterns, Options.fold, hcase, hpatterns]
  rw [found, found, hall]
  apply List.monotone_filter_right
  intro p hkept
  rw [Bool.not_eq_true', ← Bool.not_eq_true, Options.ignores_iff] at hkept ⊢
  exact fun h => hkept (h.mono hmore (List.infix_refl p.chars))

/-- When options name more markers to look for, all offsets that are reported are reported still.
When they name more texts to ignore, no other messages are given. -/
theorem messages_of_more_options {c : Rule.Context} {options : Json}
    (hoptions : c.readOptions {} Options.decode = .ok o)
    (hoptions' : (c.withOptions options).readOptions {} Options.decode = .ok o')
    (hcase : o'.caseSensitive = o.caseSensitive) :
    (o.patterns ≠ [] → o.patterns ⊆ o'.patterns → o'.ignorePatterns = o.ignorePatterns →
      ((rule.check c).messages c).map (·.span.start) <+
        ((rule.check (c.withOptions options)).messages (c.withOptions options)).map
          (·.span.start)) ∧
    (o'.patterns = o.patterns → o.ignorePatterns ⊆ o'.ignorePatterns →
      (rule.check (c.withOptions options)).messages (c.withOptions options) <+
        (rule.check c).messages c) := by
  rw [rule_check_of_readOptions hoptions, rule_check_of_readOptions hoptions']
  constructor
  · intro hne hpatterns hignored
    -- Options that name markers look for these and not for the default ones.
    have hne' : o'.patterns ≠ [] := fun hnil => hne (List.subset_nil.1 (hnil ▸ hpatterns))
    have hmore : o.effectivePatterns ⊆ o'.effectivePatterns := by
      rwa [Options.effectivePatterns, Options.effectivePatterns, if_neg (by simpa using hne),
        if_neg (by simpa using hne')]
    rw [Rule.Report.messages, Rule.Report.messages, List.map_map, List.map_map]
    refine Rule.Context.map_scan_sublist (fun m => m.start)
      (fun node start => node.span.start + start) (fun _ _ => rfl) fun text => ?_
    rw [search_eq_map, search_eq_map, List.map_map, List.map_map]
    exact map_start_found_sublist hcase hmore (hignored ▸ List.Subset.refl _) text
  · intro hpatterns hmore
    refine Rule.Context.map_scan_sublist id (fun node m => c.message (m.finding node))
      (fun _ _ => rfl) fun text => ?_
    rw [List.map_id, List.map_id, search_eq_map, search_eq_map]
    exact (found_sublist hcase hpatterns hmore text).map toMatch

/-- The options of the nested markers with one more to look for. -/
def moreMarkers : Options where
  patterns := ["do: ", "TODO:", "todo", "", "fix"]
  ignorePatterns := ["X"]

/-- The options of the nested markers with one more text to ignore. -/
def moreIgnored : Options where
  patterns := ["TODO:", "todo", "", "fix"]
  ignorePatterns := ["F", "X"]

/-- The JSON form of options with these markers and texts to ignore. -/
def Options.toJson (o : Options) : Json :=
  Json.ofFields
    [("patterns", .array (o.patterns.map .string)),
     ("ignore_patterns", .array (o.ignorePatterns.map .string)),
     ("case_sensitive", .bool o.caseSensitive)]

theorem nested_messages_of_more_options :
    nestedContext.readOptions {} Options.decode = .ok nestedOptions ∧
      (nestedContext.withOptions moreMarkers.toJson).readOptions {} Options.decode =
        .ok moreMarkers ∧
      (nestedContext.withOptions moreIgnored.toJson).readOptions {} Options.decode =
        .ok moreIgnored ∧
      ((rule.check nestedContext).messages nestedContext).map (·.span.start) <+
        ((rule.check (nestedContext.withOptions moreMarkers.toJson)).messages
          (nestedContext.withOptions moreMarkers.toJson)).map (·.span.start) ∧
      (rule.check (nestedContext.withOptions moreIgnored.toJson)).messages
          (nestedContext.withOptions moreIgnored.toJson) <+
        (rule.check nestedContext).messages nestedContext := by
  have hoptions : nestedContext.readOptions {} Options.decode = .ok nestedOptions := by rfl
  have hmarkers : (nestedContext.withOptions moreMarkers.toJson).readOptions {} Options.decode =
      .ok moreMarkers := by rfl
  have hignored : (nestedContext.withOptions moreIgnored.toJson).readOptions {} Options.decode =
      .ok moreIgnored := by rfl
  have hmore := (messages_of_more_options hoptions hmarkers rfl).1 (by decide) (by decide) rfl
  have hfewer := (messages_of_more_options hoptions hignored rfl).2 rfl (by decide)
  exact ⟨hoptions, hmarkers, hignored, hmore, hfewer⟩

/-! ### Letters of another case -/

/-- The span in the source of a piece of a node. -/
def spanIn (node : Node) (p : Piece) : Span :=
  ⟨node.span.start + p.start, node.span.start + p.stop⟩

namespace Options

/-- The piece in the letters in which texts are compared. -/
def foldPiece (o : Options) (p : Piece) : Piece :=
  ⟨p.start, o.fold p.chars⟩

theorem spanIn_foldPiece (o : Options) (node : Node) (p : Piece) :
    spanIn node (o.foldPiece p) = spanIn node p := by
  rw [spanIn, spanIn, Piece.stop, Piece.stop, foldPiece, byteLength_fold]

theorem fold_slice? (o : Options) (text : List Char) (start stop : Nat) :
    slice? (o.fold text) start stop = (slice? text start stop).map o.fold := by
  rw [fold_eq_map, slice?_map o.utf8Size_foldChar]
  congr 1
  exact (funext o.fold_eq_map).symm

/-- Where sources are the same but for the case of letters, so is the source of a node. -/
theorem fold_raw_eq {a b : List Char} (h : o.fold a = o.fold b) (node : Node) :
    o.fold (node.raw a) = o.fold (node.raw b) := by
  have hnil : o.fold [] = [] := by rw [fold_eq_map, List.map_nil]
  have hraw (source : List Char) :
      o.fold (node.raw source) =
        (slice? (o.fold source) node.span.start node.span.stop).getD [] := by
    rw [Node.raw, fold_slice?]
    cases slice? source node.span.start node.span.stop with
    | none => exact hnil
    | some part => rfl
  rw [hraw, hraw, h]

/-- A text has the markers of a text that is the same but for the case of letters. -/
theorem exists_isMarker_of_fold_eq (h : o.fold text = o.fold text') (hp : o.IsMarker text p) :
    ∃ q, o.IsMarker text' q ∧ o.foldPiece q = o.foldPiece p := by
  -- The search looks at the folded text only.
  have hhits : hits o text = hits o text' := by rw [hits, hits, allHits, allHits, h]
  have hhit : (p.start, byteLength p.chars) ∈ hits o text' :=
    hhits ▸ mem_hits_iff.2 ⟨p, hp, rfl, rfl⟩
  obtain ⟨q, hq, hstart, hlength⟩ := mem_hits_iff.1 hhit
  refine ⟨q, hq, ?_⟩
  obtain ⟨pattern, -, htakes⟩ := hp.taken
  obtain ⟨pattern', -, htakes'⟩ := hq.taken
  -- What stands at the same offsets of both texts is the same when folded.
  have hslice := o.fold_slice? text p.start p.stop
  have hslice' := o.fold_slice? text' q.start q.stop
  rw [htakes.slice?_eq] at hslice
  rw [htakes'.slice?_eq, Piece.stop, hlength, hstart, ← h] at hslice'
  have hchars : o.fold q.chars = o.fold p.chars := Option.some.inj (hslice'.symm.trans hslice)
  rw [foldPiece, foldPiece, hstart, hchars]

/-- Markers at one offset of two texts that are the same but for the case of letters are so
themselves. -/
theorem foldPiece_eq_of_start_eq (h : o.fold text = o.fold text') (hp : o.IsMarker text p)
    (hq : o.IsMarker text' q) (hstart : p.start = q.start) : o.foldPiece q = o.foldPiece p := by
  obtain ⟨q', hq', hpiece⟩ := exists_isMarker_of_fold_eq h hp
  rwa [hq'.unique hq ((congrArg Piece.start hpiece).trans hstart)] at hpiece

/-- Whether the texts to ignore are given in all spellings that differ in the case of letters. -/
def IgnoresAllSpellings (o : Options) : Prop :=
  ∀ ignored ∈ o.ignorePatterns, ∀ spelling : String,
    o.fold spelling.toList = o.fold ignored.toList → spelling ∈ o.ignorePatterns

/-- Where texts are ignored in all spellings, the case of letters does not matter. -/
theorem IgnoresAllSpellings.passesOver {part part' : List Char} (hall : o.IgnoresAllSpellings)
    (hfold : o.fold part = o.fold part') (h : o.PassesOver part) : o.PassesOver part' := by
  obtain ⟨ignored, hmem, before, after, rfl⟩ := h
  rw [fold_eq_map, fold_eq_map, List.map_append, List.map_append] at hfold
  -- The other text has the same letters in the place of the ignored text, in some spelling.
  obtain ⟨front, after', rfl, hfront, -⟩ := List.map_eq_append_iff.1 hfold.symm
  obtain ⟨before', spelling, rfl, -, hspelling⟩ := List.map_eq_append_iff.1 hfront
  have hsame : o.fold (String.ofList spelling).toList = o.fold ignored.toList := by
    rw [String.toList_ofList, fold_eq_map, fold_eq_map, hspelling]
  refine ⟨String.ofList spelling, hall ignored hmem _ hsame, before', after', ?_⟩
  rw [String.toList_ofList]

end Options

variable {c : Rule.Context} {document : Node} {a b : List Char}

/-- The spans that are reported are those of the markers that are found. -/
theorem spansOn_eq (hoptions : c.readOptions {} Options.decode = .ok o) (source : List Char)
    (document : Node) :
    rule.spansOn c source document =
      (document.ofType .str).flatMap fun node =>
        (found o (node.raw source)).map (spanIn node) := by
  have hoptions' : (c.on source document).readOptions {} Options.decode = .ok o := hoptions
  rw [Rule.spansOn, rule_check_of_readOptions hoptions', Rule.Report.messages, List.map_map,
    Rule.Context.scan, List.map_flatMap]
  refine List.flatMap_congr fun node _ => ?_
  rw [search_eq_map, List.map_map, List.map_map]
  exact List.map_congr_left fun p _ => Rule.Context.span_message_finding (toMatch p) node

theorem mem_spansOn_iff (hoptions : c.readOptions {} Options.decode = .ok o) {source : List Char}
    {span : Span} :
    span ∈ rule.spansOn c source document ↔
      ∃ node ∈ document.ofType .str, ∃ p, o.IsMarker (node.raw source) p ∧
        ¬ o.PassesOver p.chars ∧ spanIn node p = span := by
  simp only [spansOn_eq hoptions, List.mem_flatMap, List.mem_map, mem_found_iff, and_assoc]

/-- Markers with one span are in the same letters, whichever nodes they are found in. -/
theorem chars_eq_of_spanIn_eq {source : List Char} {node node' : Node}
    (hp : o.IsMarker (node.raw source) p) (hq : o.IsMarker (node'.raw source) q)
    (h : spanIn node p = spanIn node' q) : p.chars = q.chars := by
  obtain ⟨hstart, hstop⟩ := Span.mk.inj h
  obtain ⟨pattern, -, htakes⟩ := hp.taken
  obtain ⟨pattern', -, htakes'⟩ := hq.taken
  have hlength : byteLength q.chars = byteLength p.chars := by
    rw [Piece.stop, Piece.stop] at hstop
    omega
  -- Markers that are not empty are both the slice of the source between the ends of the span.
  by_cases hempty : byteLength p.chars = 0
  · rw [byteLength_eq_zero.1 hempty, byteLength_eq_zero.1 (hlength.trans hempty)]
  · have hne : p.chars ≠ [] := fun h => hempty (byteLength_eq_zero.2 h)
    have hne' : q.chars ≠ [] := fun h => hempty (hlength ▸ byteLength_eq_zero.2 h)
    have hslice := Node.slice?_of_raw htakes.slice?_eq hne
    rw [hstart, hstop, Node.slice?_of_raw htakes'.slice?_eq hne'] at hslice
    exact (Option.some.inj hslice).symm

/-- Where all spans that are reported of `b` are reported of `a`, a marker that is passed over in
`a` is passed over in `b`. -/
theorem passesOver_of_subset (hoptions : c.readOptions {} Options.decode = .ok o)
    (hletters : o.fold a = o.fold b) (h : rule.spansOn c b document ⊆ rule.spansOn c a document)
    {node : Node} (hnode : node ∈ document.ofType .str) (hp : o.IsMarker (node.raw a) p)
    (hq : o.IsMarker (node.raw b) q) (hstart : p.start = q.start) (hpassed : o.PassesOver p.chars) :
    o.PassesOver q.chars := by
  by_contra hkept
  -- Both markers have the same span, which is reported of `b` and therefore of `a`.
  have hpiece := Options.foldPiece_eq_of_start_eq (Options.fold_raw_eq hletters node) hp hq hstart
  have hspan : spanIn node q = spanIn node p := by
    rw [← o.spanIn_foldPiece, hpiece, o.spanIn_foldPiece]
  have hreported := h ((mem_spansOn_iff hoptions).2 ⟨node, hnode, q, hq, hkept, rfl⟩)
  obtain ⟨node', -, p', hp', hkept', hspan'⟩ := (mem_spansOn_iff hoptions).1 hreported
  rw [chars_eq_of_spanIn_eq hp hp' (hspan.symm.trans hspan'.symm)] at hpassed
  exact hkept' hpassed

/-- Where the markers of one text are passed over only if those of another are, what is found in the
first is found in the other. -/
theorem map_foldPiece_found_subset (hletters : o.fold text = o.fold text')
    (h : ∀ p q, o.IsMarker text p → o.IsMarker text' q → p.start = q.start →
      o.PassesOver q.chars → o.PassesOver p.chars) :
    (found o text).map o.foldPiece ⊆ (found o text').map o.foldPiece := by
  intro piece hpiece
  obtain ⟨p, hp, rfl⟩ := List.mem_map.1 hpiece
  obtain ⟨hmarker, hkept⟩ := mem_found_iff.1 hp
  obtain ⟨q, hq, hfold⟩ := Options.exists_isMarker_of_fold_eq hletters hmarker
  have hstart : p.start = q.start := (congrArg Piece.start hfold).symm
  have hqkept : ¬ o.PassesOver q.chars := fun hpassed => hkept (h p q hmarker hq hstart hpassed)
  exact List.mem_map.2 ⟨q, mem_found_iff.2 ⟨hq, hqkept⟩, hfold⟩

/-- Where the markers of two texts that are the same but for the case of letters are passed over
alike, the same is found in them. -/
theorem map_foldPiece_found_eq (hletters : o.fold text = o.fold text')
    (h : ∀ p q, o.IsMarker text p → o.IsMarker text' q → p.start = q.start →
      (o.PassesOver p.chars ↔ o.PassesOver q.chars)) :
    (found o text).map o.foldPiece = (found o text').map o.foldPiece := by
  have hsorted (text : List Char) : ((found o text).map o.foldPiece).Pairwise Piece.Before :=
    List.pairwise_map.2 (isFound_found o text).sorted
  apply List.Subset.antisymm_of_pairwise (hsorted text) (hsorted text')
  · apply map_foldPiece_found_subset hletters
    intro p q hp hq hstart
    exact (h p q hp hq hstart).2
  · apply map_foldPiece_found_subset hletters.symm
    intro q p hq hp hstart
    exact (h p q hp hq hstart.symm).1

/-- Whether in two sources the markers in the literals of a tree are passed over alike. -/
def PassesOverAlike (o : Options) (document : Node) (a b : List Char) : Prop :=
  ∀ node ∈ document.ofType .str, ∀ p q, o.IsMarker (node.raw a) p → o.IsMarker (node.raw b) q →
    p.start = q.start → (o.PassesOver p.chars ↔ o.PassesOver q.chars)

/-- Sources that are the same but for the case of letters have the same spans reported if their
markers are passed over alike. -/
theorem spansOn_eq_of_passesOverAlike (hoptions : c.readOptions {} Options.decode = .ok o)
    (hletters : o.fold a = o.fold b) (h : PassesOverAlike o document a b) :
    rule.spansOn c a document = rule.spansOn c b document := by
  have hspan (node : Node) : spanIn node ∘ o.foldPiece = spanIn node :=
    funext (o.spanIn_foldPiece node)
  rw [spansOn_eq hoptions, spansOn_eq hoptions]
  refine List.flatMap_congr fun node hnode => ?_
  rw [← hspan, ← List.map_map, ← List.map_map,
    map_foldPiece_found_eq (Options.fold_raw_eq hletters node) (h node hnode)]

/-- When case does not matter, sources that are the same but for the case of letters have the same
markers at the same places. The same spans are reported of them exactly if the markers are passed
over alike, and so they are where every text to ignore is given in all spellings. -/
theorem spansOn_eq_iff (hoptions : c.readOptions {} Options.decode = .ok o)
    (hcase : o.caseSensitive = false) (document : Node) (hletters : asciiUpper a = asciiUpper b) :
    (∀ node ∈ document.ofType .str, ∀ p, o.IsMarker (node.raw a) p →
      ∃ q, o.IsMarker (node.raw b) q ∧ spanIn node q = spanIn node p ∧
        asciiUpper q.chars = asciiUpper p.chars) ∧
    (rule.spansOn c a document = rule.spansOn c b document ↔ PassesOverAlike o document a b) ∧
    (o.IgnoresAllSpellings → rule.spansOn c a document = rule.spansOn c b document) := by
  have hupper : o.fold = asciiUpper := by
    funext cs
    rw [Options.fold, hcase]
    rfl
  have hfold : o.fold a = o.fold b := by rwa [hupper]
  have halike : PassesOverAlike o document a b →
      rule.spansOn c a document = rule.spansOn c b document :=
    spansOn_eq_of_passesOverAlike hoptions hfold
  refine ⟨?_, ⟨?_, halike⟩, ?_⟩
  · intro node _ p hp
    obtain ⟨q, hq, hpiece⟩ :=
      Options.exists_isMarker_of_fold_eq (Options.fold_raw_eq hfold node) hp
    refine ⟨q, hq, ?_, ?_⟩
    · rw [← o.spanIn_foldPiece, hpiece, o.spanIn_foldPiece]
    · rw [← hupper]
      exact congrArg Piece.chars hpiece
  · intro heq node hnode p q hp hq hstart
    constructor
    · apply passesOver_of_subset hoptions hfold _ hnode hp hq hstart
      exact heq ▸ List.Subset.refl _
    · apply passesOver_of_subset hoptions hfold.symm _ hnode hq hp hstart.symm
      exact heq ▸ List.Subset.refl _
  · intro hall
    apply halike
    intro node _ p q hp hq hstart
    have hchars : o.fold q.chars = o.fold p.chars := congrArg Piece.chars
      (Options.foldPiece_eq_of_start_eq (Options.fold_raw_eq hfold node) hp hq hstart)
    exact ⟨hall.passesOver hchars.symm, hall.passesOver hchars⟩

/-- A context of the rule with these options, for sources to come. -/
def contextWith (o : Options) : Rule.Context where
  ruleId := "no-todo"
  document := default
  source := []
  lines := .ofText []
  filePath := none
  options := o.toJson
  forced := none

/-- Options that pass over numbered markers. -/
def numberedIgnored : Options where
  patterns := ["TODO1:", "FIXME"]
  ignorePatterns := ["1"]

theorem spansOn_eq_numbered :
    (contextWith numberedIgnored).readOptions {} Options.decode = .ok numberedIgnored ∧
      numberedIgnored.caseSensitive = false ∧
      asciiUpper "todo1: Fixme é".toList = asciiUpper "TODO1: fixME é".toList ∧
      numberedIgnored.IgnoresAllSpellings ∧
      rule.spansOn (contextWith numberedIgnored) "todo1: Fixme é".toList
          (PlainText.parse "todo1: Fixme é".toList) =
        rule.spansOn (contextWith numberedIgnored) "TODO1: fixME é".toList
          (PlainText.parse "todo1: Fixme é".toList) := by
  have hoptions : (contextWith numberedIgnored).readOptions {} Options.decode =
      .ok numberedIgnored := by rfl
  have hletters : asciiUpper "todo1: Fixme é".toList = asciiUpper "TODO1: fixME é".toList := by
    decide
  have hall : numberedIgnored.IgnoresAllSpellings := by
    intro ignored hignored spelling hspelling
    obtain rfl : ignored = "1" := List.mem_singleton.1 hignored
    have hupper : spelling.toList.map Char.toUpper = ['1'] := hspelling
    obtain ⟨c, hchars, hdigit⟩ := List.map_eq_singleton_iff.1 hupper
    -- A digit is the capital of itself only.
    obtain rfl : c = '1' := (toUpper_eq_iff (by decide)).1 hdigit
    obtain rfl : spelling = "1" := String.toList_inj.1 hchars
    exact List.mem_singleton_self _
  exact ⟨hoptions, rfl, hletters, hall, (spansOn_eq_iff hoptions rfl _ hletters).2.2 hall⟩

/-- Options that pass over the markers in capitals. -/
def capitalsIgnored : Options where
  ignorePatterns := ["TODO:"]

/-- A marker in capitals is passed over, and the same marker in small letters is reported, though
case does not matter for markers. -/
theorem todo_ignored_in_capitals_only :
    (contextWith capitalsIgnored).readOptions {} Options.decode = .ok capitalsIgnored ∧
      capitalsIgnored.caseSensitive = false ∧
      asciiUpper "TODO: x".toList = asciiUpper "todo: x".toList ∧
      rule.spansOn (contextWith capitalsIgnored) "TODO: x".toList
        (PlainText.parse "todo: x".toList) = [] ∧
      rule.spansOn (contextWith capitalsIgnored) "todo: x".toList
        (PlainText.parse "todo: x".toList) = [⟨0, 5⟩] := by
  refine ⟨by rfl, rfl, by decide, ?_, ?_⟩
  · decide +kernel
  · decide +kernel

end NoTodo

end ProseLinter
