import Mathlib.Data.List.Sort
import ProseLinter.Document.PlainText
import ProseLinter.Proofs.Rule.Scan
import ProseLinter.Proofs.Text.Trim

/-!
# What the rule against long sentences reports

The rule cuts a text behind every terminator, takes the blanks away around each piece and leaves out
the pieces that hold nothing else. What is left are the sentences of the text in the sense of
`SentenceLength.AreSentences`, and a text has no others.

* `SentenceLength.areSentences_sentences` : the sentences that the rule looks at are sentences.
* `SentenceLength.AreSentences.unique` : a text has one list of sentences only.
* `SentenceLength.messages_of_sentences` : the messages of the rule.
-/

namespace ProseLinter.SentenceLength

open Text
open scoped List

variable {text : List Char} {p q r : Piece} {qs qs' : List Piece} {i j : Nat} {c d : Char}

/-! ### Sentences of a text -/

/-- The sentences of a text in order. Each is a slice of the text without blanks around it, and they
lie apart. Every character that is not blank stands in one of them. A terminator is the last
character of its sentence, and only the last sentence may lack one. -/
structure AreSentences (text : List Char) (qs : List Piece) : Prop where
  slice?_eq : ∀ q ∈ qs, slice? text q.start q.stop = some q.chars
  ne_nil : ∀ q ∈ qs, q.chars ≠ []
  head_not_blank : ∀ q ∈ qs, ∀ c ∈ q.chars.head?, isBlank c = false
  last_not_blank : ∀ q ∈ qs, ∀ c ∈ q.chars.getLast?, isBlank c = false
  apart : Apart qs
  covered : ∀ offset c, CharAt text offset c → isBlank c = false →
    ∃! q, q ∈ qs ∧ q.Holds offset c
  terminator_last : ∀ q ∈ qs, ∀ c ∈ q.chars.dropLast, isTerminator c = false
  terminated : ∀ q ∈ qs.dropLast, ∃ c ∈ q.chars.getLast?, isTerminator c = true

theorem isBlank_of_isTerminator (h : isTerminator c = true) : isBlank c = false := by
  simp only [isTerminator, Bool.or_eq_true, beq_iff_eq] at h
  rcases h with ((((rfl | rfl) | rfl) | rfl) | rfl) | rfl <;> decide

/-- What is true of all members of a list but the last is true of each that another follows. -/
theorem forall_mem_dropLast_iff {α : Type} {p : α → Prop} {xs : List α} :
    (∀ x ∈ xs.dropLast, p x) ↔ xs.Pairwise fun x _ => p x := by
  induction xs with
  | nil => simp
  | cons x xs ih =>
    cases xs with
    | nil => simp
    | cons y ys =>
      rw [List.dropLast_cons_cons, List.forall_mem_cons, ih]
      constructor
      · rintro ⟨hx, hrest⟩
        exact .cons (fun _ _ => hx) hrest
      · intro h
        exact ⟨List.rel_of_pairwise_cons h List.mem_cons_self, h.of_cons⟩

/-! ### The sentences that are found -/

/-- A sentence lies in its piece. -/
theorem within_of_trimPiece? (h : trimPiece? p = some q) : p.start ≤ q.start ∧ q.stop ≤ p.stop := by
  obtain ⟨-, lead, trail, htrimmed, hstart⟩ := exists_isTrimmed_of_trimPiece? h
  have hlength := congrArg byteLength htrimmed.eq_append
  rw [byteLength_append, byteLength_append] at hlength
  rw [Piece.stop, Piece.stop]
  omega

/-- The last character of a sentence is that of its piece, if that is a terminator. -/
theorem getLast?_eq_of_trimPiece? (h : trimPiece? p = some q) (hc : isTerminator c = true)
    (hlast : p.chars.getLast? = some c) : q.chars.getLast? = some c := by
  obtain ⟨hne, lead, trail, htrimmed, -⟩ := exists_isTrimmed_of_trimPiece? h
  rw [htrimmed.eq_append, List.getLast?_append] at hlast
  cases htrail : trail.getLast? with
  | some d =>
    -- The blanks behind a sentence hold no terminator.
    obtain rfl : d = c := by simpa [htrail] using hlast
    have hblank := htrimmed.blank_trail d (List.mem_of_getLast? htrail)
    rw [isBlank_of_isTerminator hc] at hblank
    cases hblank
  | none =>
    rw [htrail, Option.none_or, List.getLast?_append_of_ne_nil _ hne] at hlast
    exact hlast

/-- The characters of a sentence but the last are characters of its piece but the last. -/
theorem mem_dropLast_of_trimPiece? (h : trimPiece? p = some q) (hc : c ∈ q.chars.dropLast) :
    c ∈ p.chars.dropLast := by
  obtain ⟨hne, lead, trail, htrimmed, -⟩ := exists_isTrimmed_of_trimPiece? h
  rw [htrimmed.eq_append, List.append_assoc,
    List.dropLast_append_of_ne_nil (List.append_ne_nil_of_left_ne_nil hne trail)]
  apply List.mem_append_right
  cases trail with
  | nil => rwa [List.append_nil]
  | cons d trail =>
    rw [List.dropLast_append_of_ne_nil (List.cons_ne_nil d trail)]
    exact List.mem_append_left _ (List.dropLast_subset _ hc)

theorem apart_sentences (text : List Char) : Apart (sentences text) := by
  refine List.Pairwise.filterMap _ ?_ (apart_pieces isTerminator text)
  intro p p' hle q hq q' hq'
  exact Nat.le_trans (within_of_trimPiece? hq).2
    (Nat.le_trans hle (within_of_trimPiece? hq').1)

/-- A character that is not blank stands in a sentence. -/
theorem exists_sentence_of_charAt (h : CharAt text i c) (hc : isBlank c = false) :
    ∃ q ∈ sentences text, q.Holds i c := by
  obtain ⟨p, hp, front, back, hchars, rfl⟩ := h.exists_mem_pieces isTerminator
  -- The piece of the character is not blank, so there is a sentence in it.
  cases hq : trimPiece? p with
  | none =>
    have hblank := isBlank_of_trimPiece?_eq_none hq c (by simp [hchars])
    rw [hc] at hblank
    cases hblank
  | some q =>
    refine ⟨q, List.mem_filterMap.2 ⟨p, hp, hq⟩, ?_⟩
    obtain ⟨-, lead, trail, htrimmed, hstart⟩ := exists_isTrimmed_of_trimPiece? hq
    -- The character is none of the blanks that were taken away around the sentence.
    obtain ⟨left, right, rfl, hleft⟩ := htrimmed.exists_eq_append_cons hchars hc
    rw [Piece.Holds, Piece.stop, hstart, hleft, byteLength_append, byteLength_append,
      byteLength_cons]
    omega

/-- The sentences that the rule looks at are sentences of the text. -/
theorem areSentences_sentences (text : List Char) : AreSentences text (sentences text) where
  slice?_eq q hq := slice?_of_mem_sentences hq
  ne_nil q hq := by
    obtain ⟨p, -, htrim⟩ := List.mem_filterMap.1 hq
    exact (exists_isTrimmed_of_trimPiece? htrim).1
  head_not_blank q hq := by
    obtain ⟨p, -, htrim⟩ := List.mem_filterMap.1 hq
    obtain ⟨-, lead, trail, htrimmed, -⟩ := exists_isTrimmed_of_trimPiece? htrim
    exact htrimmed.head_not_blank
  last_not_blank q hq := by
    obtain ⟨p, -, htrim⟩ := List.mem_filterMap.1 hq
    obtain ⟨-, lead, trail, htrimmed, -⟩ := exists_isTrimmed_of_trimPiece? htrim
    exact htrimmed.last_not_blank
  apart := apart_sentences text
  covered i c hat hc := by
    obtain ⟨q, hq, hholds⟩ := exists_sentence_of_charAt hat hc
    refine ⟨q, ⟨hq, hholds⟩, ?_⟩
    rintro r ⟨hr, hholds'⟩
    exact (apart_sentences text).eq_of_holds hr hq hholds' hholds
  terminator_last q hq c hc := by
    obtain ⟨p, hp, htrim⟩ := List.mem_filterMap.1 hq
    have hpart : p.chars ∈ parts isTerminator text := List.mem_map_of_mem hp
    exact (isCut_parts isTerminator text).ends_eq_false hpart c
      (mem_dropLast_of_trimPiece? htrim hc)
  terminated := by
    -- Leaving blank pieces out can only make a piece the last one that was not.
    rw [forall_mem_dropLast_iff]
    refine List.Pairwise.filterMap _ ?_
      (List.pairwise_map.1 (isCut_parts isTerminator text).pairwise_ended)
    rintro p p' ⟨c, hlast, hc⟩ q hq q' -
    exact ⟨c, getLast?_eq_of_trimPiece? hq hc hlast, hc⟩

/-! ### A text has no other sentences -/

/-- Whether no terminator stands from one offset on and before another. -/
def Joined (text : List Char) (i j : Nat) : Prop :=
  ∀ k t, CharAt text k t → i ≤ k → k < j → isTerminator t = false

namespace AreSentences

/-- Between two characters of a sentence there is no terminator. -/
theorem joined (h : AreSentences text qs) (hq : q ∈ qs) (hi : q.Holds i c) (hj : q.Holds j d)
    (hat : CharAt text j d) : Joined text i j := by
  intro k t hterminator hle hlt
  have hnext := hterminator.add_le hat hlt
  have hpos := d.utf8Size_pos
  have hroom : k + t.utf8Size < q.stop := by
    have := hj.2
    omega
  have hholds : q.Holds k t := ⟨Nat.le_trans hi.1 hle, Nat.le_of_lt hroom⟩
  obtain ⟨left, right, hchars, rfl⟩ := hholds.exists_eq_append (h.slice?_eq q hq) hterminator
  -- Behind the terminator the sentence goes on.
  have hright : right ≠ [] := by
    rintro rfl
    rw [Piece.stop, hchars, byteLength_append, byteLength_cons, byteLength_nil] at hroom
    omega
  apply h.terminator_last q hq
  rw [hchars, List.dropLast_append_of_ne_nil (List.cons_ne_nil t right),
    List.dropLast_cons_of_ne_nil hright]
  exact List.mem_append_right _ List.mem_cons_self

/-- A sentence that stops before another starts ends with a terminator. -/
theorem exists_terminator (h : AreSentences text qs) (hq : q ∈ qs) (hr : r ∈ qs)
    (hle : q.stop ≤ r.start) : ∃ c ∈ q.chars.getLast?, isTerminator c = true := by
  have hqpos := Piece.start_lt_stop (h.ne_nil q hq)
  have hrpos := Piece.start_lt_stop (h.ne_nil r hr)
  rcases qs.eq_nil_or_concat' with rfl | ⟨earlier, last, rfl⟩
  · exact absurd hq List.not_mem_nil
  have hterminated := h.terminated
  rw [List.dropLast_concat] at hterminated
  rcases List.mem_append.1 hq with hq | hq
  · exact hterminated q hq
  · -- Were it the last sentence, the other would stop before it starts.
    obtain rfl := List.mem_singleton.1 hq
    rcases List.mem_append.1 hr with hr | hr
    · have := (List.pairwise_append.1 h.apart).2.2 r hr q (List.mem_singleton_self q)
      omega
    · obtain rfl := List.mem_singleton.1 hr
      omega

/-- Characters without a terminator between them are of one sentence. -/
theorem eq_of_joined (h : AreSentences text qs) (hq : q ∈ qs) (hr : r ∈ qs) (hi : q.Holds i c)
    (hj : r.Holds j d) (hat : CharAt text i c) (hle : i ≤ j) (hjoined : Joined text i j) :
    q = r := by
  have hcpos := c.utf8Size_pos
  have hdpos := d.utf8Size_pos
  obtain ⟨hqstart, hqstop⟩ := hi
  obtain ⟨hrstart, hrstop⟩ := hj
  rcases h.apart.cases hq hr with heq | hbehind | hbehind
  · exact heq
  · -- The terminator of the first sentence stands between the characters.
    obtain ⟨t, hlast, ht⟩ := h.exists_terminator hq hr hbehind
    obtain ⟨k, hterminator, -, hstop⟩ := exists_charAt_last (h.slice?_eq q hq) hlast
    have htpos := t.utf8Size_pos
    have hfrom : i ≤ k := by
      by_contra hlt
      have := hterminator.add_le hat (Nat.lt_of_not_le hlt)
      omega
    rw [hjoined k t hterminator hfrom (by omega)] at ht
    cases ht
  · omega

/-- Characters of one sentence are of one sentence by every other division of the text too. -/
theorem holds_of_holds (h : AreSentences text qs) (h' : AreSentences text qs') (hq : q ∈ qs)
    (hr : r ∈ qs') (hi : CharAt text i c) (hj : CharAt text j d) (hd : isBlank d = false)
    (hqi : q.Holds i c) (hqj : q.Holds j d) (hri : r.Holds i c) : r.Holds j d := by
  obtain ⟨r', ⟨hr', hrj⟩, -⟩ := h'.covered j d hj hd
  -- No terminator stands between the characters, in whichever order they come.
  have hsame : r = r' := by
    rcases Nat.le_total i j with hle | hle
    · exact h'.eq_of_joined hr hr' hri hrj hi hle (h.joined hq hqi hqj hj)
    · exact (h'.eq_of_joined hr' hr hrj hri hj hle (h.joined hq hqj hqi hi)).symm
  rwa [hsame]

/-- A sentence begins with a character that is not blank. -/
theorem exists_first (h : AreSentences text qs) (hq : q ∈ qs) :
    ∃ c, CharAt text q.start c ∧ isBlank c = false ∧ q.Holds q.start c := by
  obtain ⟨c, rest, hchars⟩ := List.exists_cons_of_ne_nil (h.ne_nil q hq)
  have hfirst : q.chars = [] ++ c :: rest := hchars
  obtain ⟨hat, hholds⟩ := charAt_of_eq_append (h.slice?_eq q hq) hfirst
  exact ⟨c, hat, h.head_not_blank q hq c (by rw [hchars]; rfl), hholds⟩

/-- A sentence ends with a character that is not blank. -/
theorem exists_last (h : AreSentences text qs) (hq : q ∈ qs) :
    ∃ k c, CharAt text k c ∧ isBlank c = false ∧ q.Holds k c ∧ k + c.utf8Size = q.stop := by
  have hlast := List.getLast?_eq_some_getLast (h.ne_nil q hq)
  obtain ⟨k, hat, hholds, hstop⟩ := exists_charAt_last (h.slice?_eq q hq) hlast
  exact ⟨k, _, hat, h.last_not_blank q hq _ hlast, hholds, hstop⟩

/-- Where sentences of two divisions share a character, one lies within the other. -/
theorem within_of_holds (h : AreSentences text qs) (h' : AreSentences text qs') (hq : q ∈ qs)
    (hr : r ∈ qs') (hi : CharAt text i c) (hqi : q.Holds i c) (hri : r.Holds i c) :
    r.start ≤ q.start ∧ q.stop ≤ r.stop := by
  obtain ⟨d, hfirst, hd, hqfirst⟩ := h.exists_first hq
  obtain ⟨k, e, hlast, he, hqlast, hstop⟩ := h.exists_last hq
  have hrfirst := h.holds_of_holds h' hq hr hi hfirst hd hqi hqfirst hri
  have hrlast := h.holds_of_holds h' hq hr hi hlast he hqi hqlast hri
  exact ⟨hrfirst.1, hstop ▸ hrlast.2⟩

/-- A sentence of one division of a text is one of every other. -/
theorem subset (h : AreSentences text qs) (h' : AreSentences text qs') : qs ⊆ qs' := by
  intro q hq
  obtain ⟨c, hat, hc, hqholds⟩ := h.exists_first hq
  obtain ⟨r, ⟨hr, hrholds⟩, -⟩ := h'.covered _ c hat hc
  -- Each of the two sentences lies within the other.
  obtain ⟨hstart, hstop⟩ := h.within_of_holds h' hq hr hat hqholds hrholds
  obtain ⟨hstart', hstop'⟩ := h'.within_of_holds h hr hq hat hrholds hqholds
  have heq : q = r := Piece.eq_of_slice? (h.slice?_eq q hq) (h'.slice?_eq r hr)
    (Nat.le_antisymm hstart' hstart) (Nat.le_antisymm hstop hstop')
  rwa [heq]

/-- A text has one list of sentences only. -/
theorem unique (h : AreSentences text qs) (h' : AreSentences text qs') : qs = qs' :=
  List.Subset.antisymm_of_pairwise (h.apart.pairwise_before h.ne_nil)
    (h'.apart.pairwise_before h'.ne_nil) (h.subset h') (h'.subset h)

end AreSentences

theorem areSentences_iff : AreSentences text qs ↔ qs = sentences text := by
  constructor
  · exact fun h => h.unique (areSentences_sentences text)
  · rintro rfl
    exact areSentences_sentences text

example : (sentences "One. Two!  Three".toList).map (fun q => (q.start, String.ofList q.chars)) =
    [(0, "One."), (5, "Two!"), (11, "Three")] := by decide +kernel

/-! ### Messages -/

/-- The sentences of a text with more characters than a limit. -/
def long (max : Nat) (text : List Char) : List Piece :=
  (sentences text).filter fun q => max < q.chars.length

/-- The match for a sentence that is too long. -/
def toMatch (max : Nat) (q : Piece) : Match :=
  ⟨q.start, q.chars, messageText max q.chars.length, .error⟩

/-- The search matches the sentences that are too long. -/
theorem search_eq_map (max : Nat) (text : List Char) :
    search max text = (long max text).map (toMatch max) := by
  rw [long, ← List.filterMap_eq_map, List.filterMap_filter, search]
  refine List.filterMap_congr fun q _ => ?_
  simp only [match?, Function.comp_apply, toMatch, decide_eq_true_eq]

/-- A higher limit leaves fewer sentences. -/
theorem long_sublist {max max' : Nat} (hle : max ≤ max') (text : List Char) :
    long max' text <+ long max text := by
  apply List.monotone_filter_right
  intro q hq
  rw [decide_eq_true_eq] at hq ⊢
  exact Nat.lt_of_le_of_lt hle hq

/-- The message for a sentence in a node: it is about the sentence and gives its length. -/
structure IsMessage (c : Rule.Context) (max : Nat) (place : Node × Piece) (message : Message) :
    Prop where
  isAbout : c.IsAbout place message
  text_eq : message.text =
    "Line exceeds the maximum sentence length of " ++ toString max ++ " (" ++
      toString place.2.chars.length ++ " characters)."
  severity_eq : message.severity = c.forced.getD .error

theorem isMessage_of_mem_long {c : Rule.Context} {max : Nat} {node : Node}
    (hq : q ∈ long max (node.raw c.source)) :
    IsMessage c max (node, q) (c.message ((toMatch max q).finding node)) where
  isAbout := by
    have hmem : toMatch max q ∈ search max (node.raw c.source) := by
      rw [search_eq_map]
      exact List.mem_map_of_mem hq
    exact Rule.Context.isAbout_message_finding (readsIn_of_mem_search hmem).1
  text_eq := rfl
  severity_eq := rfl

/-- What the rule has to say with options that can be read and have a limit. -/
theorem rule_check_of_readOptions {c : Rule.Context} {o : Options}
    (hoptions : c.readOptions {} Options.decode = .ok o) (hmax : 0 < o.max) :
    rule.check c = ⟨c.scan .paragraph (search o.max), none⟩ := by
  have hcheck := check_of_readOptions hoptions
  rw [if_neg (Nat.ne_of_gt hmax)] at hcheck
  exact congrArg Rule.Report.ofExcept hcheck

/-- The sentences of a text are determined, and of those in each paragraph of a document the rule
reports in order the ones that have more characters than the limit. The spans that it reports with
a higher limit are among those. -/
theorem messages_of_sentences :
    (∀ text qs, AreSentences text qs ↔ qs = sentences text) ∧
    ∀ (c : Rule.Context) (o : Options), c.readOptions {} Options.decode = .ok o → 0 < o.max →
      (rule.check c).failure = none ∧
      List.Forall₂ (IsMessage c o.max)
        ((c.document.ofType .paragraph).flatMap fun node =>
          ((sentences (node.raw c.source)).filter fun q => o.max < q.chars.length).map (node, ·))
        ((rule.check c).messages c) ∧
      ∀ options o', (c.withOptions options).readOptions {} Options.decode = .ok o' →
        o.max ≤ o'.max →
        ((rule.check (c.withOptions options)).messages (c.withOptions options)).map (·.span) <+
          ((rule.check c).messages c).map (·.span) := by
  refine ⟨fun _ _ => areSentences_iff, ?_⟩
  intro c o hoptions hmax
  rw [rule_check_of_readOptions hoptions hmax]
  refine ⟨rfl, ?_, ?_⟩
  · exact Rule.Context.forall₂_messages_scan (search_eq_map o.max)
      fun _ _ => isMessage_of_mem_long
  · intro options o' hoptions' hle
    rw [rule_check_of_readOptions hoptions' (Nat.lt_of_lt_of_le hmax hle), Rule.Report.messages,
      Rule.Report.messages, List.map_map, List.map_map]
    refine Rule.Context.map_scan_sublist (fun m => (⟨m.start, m.chars⟩ : Piece))
      (fun node q => node.span.part q.start (byteLength q.chars)) (fun _ _ => rfl) fun text => ?_
    rw [search_eq_map, search_eq_map, List.map_map, List.map_map]
    exact (long_sublist hle text).map _

/-- The JSON form of the options with a limit. -/
def limitJson (max : Nat) : Json :=
  Json.ofFields [("max", .number (.int max))]

/-- A context for a text with terminators in a row, blanks of two kinds and characters of several
bytes. -/
def terminatedContext : Rule.Context where
  ruleId := "sentence-length"
  document := PlainText.parse " これは文。 A!?　次の文".toList
  source := " これは文。 A!?　次の文".toList
  lines := .ofText " これは文。 A!?　次の文".toList
  filePath := none
  options := limitJson 2
  forced := none

theorem terminated_messages :
    terminatedContext.readOptions {} Options.decode = .ok ⟨2⟩ ∧
      (rule.check terminatedContext).failure = none ∧
      List.Forall₂ (IsMessage terminatedContext 2)
        ((terminatedContext.document.ofType .paragraph).flatMap fun node =>
          ((sentences (node.raw terminatedContext.source)).filter fun q =>
            2 < q.chars.length).map (node, ·))
        ((rule.check terminatedContext).messages terminatedContext) ∧
      (terminatedContext.withOptions (limitJson 4)).readOptions {} Options.decode = .ok ⟨4⟩ ∧
      ((rule.check (terminatedContext.withOptions (limitJson 4))).messages
          (terminatedContext.withOptions (limitJson 4))).map (·.span) <+
        ((rule.check terminatedContext).messages terminatedContext).map (·.span) := by
  have hoptions : terminatedContext.readOptions {} Options.decode = .ok ⟨2⟩ := by rfl
  have hhigher : (terminatedContext.withOptions (limitJson 4)).readOptions {} Options.decode =
      .ok ⟨4⟩ := by rfl
  obtain ⟨hfailure, hmessages, hfewer⟩ :=
    messages_of_sentences.2 terminatedContext ⟨2⟩ hoptions (by decide)
  exact ⟨hoptions, hfailure, hmessages, hhigher, hfewer _ _ hhigher (by decide)⟩

end ProseLinter.SentenceLength
