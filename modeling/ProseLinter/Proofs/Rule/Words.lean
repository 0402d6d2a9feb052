import Mathlib.Data.List.Chain
import Mathlib.Data.List.Sort
import Mathlib.Data.List.TakeWhile
import ProseLinter.Proofs.Rule.Search
import ProseLinter.Proofs.Text.Piece

/-!
# The words of a text

The rule against doubled words reads a text one character after the other. What it finds are the
runs of characters that form words, each as long as it can be, and of each run it says whether only
blanks stand between it and the one before. A text has one such list of words only.

* `NoDoubledWord.IsRun` : a run in a text; `IsRun.eq_or_stop_le` says that runs lie apart.
* `NoDoubledWord.Falls` : how a text falls into gaps and words; `falls_words` says that the words
  that are found are those of the text.
* `NoDoubledWord.AreWords` : the words of a text, and `areWords_iff` : these are what is found.
-/

namespace ProseLinter.NoDoubledWord

open Text

variable {text before rest : List Char} {follows : Bool} {ws ws' : List Word} {p q : Piece}

/-- Where a word stands in the text. -/
def Word.piece (w : Word) : Piece :=
  ⟨w.start, w.chars⟩

/-! ### Runs -/

/-- A run of characters that form words, as long as it can be: no such character stands right before
it or right behind it. -/
inductive IsRun (text : List Char) : Piece → Prop
  | intro {before chars after : List Char} (htext : text = before ++ chars ++ after)
      (hne : chars ≠ []) (hchars : ∀ c ∈ chars, isWordChar c = true)
      (hbefore : ∀ c ∈ before.getLast?, isWordChar c = false)
      (hafter : ∀ c ∈ after.head?, isWordChar c = false) :
      IsRun text ⟨byteLength before, chars⟩

/-- A run at the start of a text is all that stands before the first other character. -/
theorem takeWhile_append_run {chars after : List Char} (hchars : ∀ c ∈ chars, isWordChar c = true)
    (hafter : ∀ c ∈ after.head?, isWordChar c = false) :
    (chars ++ after).takeWhile isWordChar = chars := by
  rw [List.takeWhile_append_of_pos hchars]
  cases after with
  | nil => exact List.append_nil chars
  | cons c after =>
    rw [List.takeWhile_cons_of_neg (by simp [hafter c rfl]), List.append_nil]

namespace IsRun

theorem isWordChar_eq (h : IsRun text p) : ∀ c ∈ p.chars, isWordChar c = true := by
  cases h with
  | intro htext hne hchars hbefore hafter => exact hchars

/-- A run is the slice of the text between its offsets. -/
theorem slice?_eq (h : IsRun text p) : slice? text p.start p.stop = some p.chars := by
  cases h with
  | intro htext hne hchars hbefore hafter =>
    exact slice?_eq_some_iff.2 ⟨_, _, htext, rfl, rfl⟩

/-- Of two runs the first stops before the second starts. -/
theorem eq_or_stop_le (hp : IsRun text p) (hq : IsRun text q) (hle : p.start ≤ q.start) :
    p = q ∨ p.stop ≤ q.start := by
  cases hp with
  | @intro before chars after htext hne hchars hbefore hafter =>
  cases hq with
  | @intro before' chars' after' htext' hne' hchars' hbefore' hafter' =>
    rw [htext, List.append_assoc, List.append_assoc] at htext'
    obtain ⟨between, rfl, hrest⟩ := exists_append_of_byteLength_le htext' hle
    rcases between.eq_nil_or_concat' with rfl | ⟨front, last, rfl⟩
    · -- Both begin at one place, and both end before the first other character.
      have hsame := takeWhile_append_run hchars hafter
      rw [hrest, List.nil_append, takeWhile_append_run hchars' hafter'] at hsame
      left
      rw [hsame, List.append_nil]
    · -- The character before the second run is none of the first, so that has ended there.
      have hlast : isWordChar last = false := hbefore' last (by simp)
      rcases List.append_eq_append_iff.1 hrest with ⟨more, hmore, -⟩ | ⟨more, rfl, -⟩
      · right
        rw [Piece.stop, hmore, byteLength_append, byteLength_append]
        exact Nat.add_le_add_left (Nat.le_add_right _ _) _
      · have hform := hchars last (by simp)
        rw [hlast] at hform
        cases hform

/-- No run lies in a gap. -/
theorem lt_stop {gap after : List Char} (hgap : ∀ c ∈ gap, isWordChar c = false)
    (hp : IsRun (before ++ gap ++ after) p) (hle : byteLength before ≤ p.start) :
    byteLength (before ++ gap) < p.stop := by
  cases hp with
  | @intro front chars behind htext hne hchars hbefore hafter =>
  by_contra hstop
  rw [Piece.stop, ← byteLength_append, Nat.not_lt] at hstop
  obtain ⟨more, hmore, -⟩ := exists_append_of_byteLength_le htext.symm hstop
  rw [List.append_assoc] at hmore
  obtain ⟨between, rfl, hbetween⟩ := exists_append_of_byteLength_le hmore hle
  -- Its first character would be one of the gap.
  obtain ⟨c, cs, rfl⟩ := List.exists_cons_of_ne_nil hne
  have hform := hchars c List.mem_cons_self
  rw [hgap c (by simp [hbetween])] at hform
  cases hform

end IsRun

/-! ### Gaps and words -/

/-- How the rest of a text falls into gaps and words. What was read so far is `before`, which ends
with a word if `follows` says so. -/
inductive Falls : List Char → Bool → List Char → List Word → Prop
  | gap {before gap : List Char} {follows : Bool} (hgap : ∀ c ∈ gap, isWordChar c = false) :
      Falls before follows gap []
  | word {before gap chars rest : List Char} {follows : Bool} {ws : List Word}
      (hgap : ∀ c ∈ gap, isWordChar c = false) (hne : chars ≠ [])
      (hchars : ∀ c ∈ chars, isWordChar c = true) (hrest : ∀ c ∈ rest.head?, isWordChar c = false)
      (h : Falls (before ++ gap ++ chars) true rest ws) :
      Falls before follows (gap ++ chars ++ rest)
        (⟨byteLength (before ++ gap), chars, follows && gap.all isBlank⟩ :: ws)

/-- Reading on from a gap, or from inside a word, finds the words of the rest. -/
theorem falls_wordsFrom (before : List Char) {gap current : List Char}
    (hgap : ∀ c ∈ gap, isWordChar c = false) (hcurrent : ∀ c ∈ current, isWordChar c = true)
    (start : Nat) (hstart : current ≠ [] → start = byteLength (before ++ gap)) (follows : Bool)
    (cs : List Char) :
    Falls before follows (gap ++ current.reverse ++ cs)
      (wordsFrom [] start current (follows && gap.all isBlank)
        (byteLength (before ++ gap ++ current.reverse)) cs) := by
  induction cs generalizing before gap current start follows with
  | nil =>
    cases current with
    | nil =>
      rw [List.reverse_nil, List.append_nil, List.append_nil]
      exact .gap hgap
    | cons d current =>
      obtain rfl := hstart (List.cons_ne_nil d current)
      exact .word hgap (by simp) (fun c hc => hcurrent c (List.mem_reverse.1 hc)) (by simp)
        (.gap (List.forall_mem_nil _))
  | cons c cs ih =>
    have hnext : byteLength (before ++ gap ++ current.reverse) + c.utf8Size =
        byteLength (before ++ gap ++ current.reverse ++ [c]) := by
      simp [Nat.add_assoc]
    rw [wordsFrom]
    simp only [hnext]
    cases hc : isWordChar c with
    | true =>
      -- The word goes on, or begins here.
      have hword : (c :: current) ≠ [] →
          (if current.isEmpty then byteLength (before ++ gap ++ current.reverse) else start) =
            byteLength (before ++ gap) := by
        intro _
        cases current with
        | nil => simp
        | cons d current => exact hstart (List.cons_ne_nil d current)
      have hgo := ih before hgap (List.forall_mem_cons.2 ⟨hc, hcurrent⟩) _ hword follows
      rw [List.reverse_cons, ← List.append_assoc, ← List.append_assoc] at hgo
      rw [List.append_assoc _ [c] cs] at hgo
      exact hgo
    | false =>
      cases current with
      | nil =>
        -- The gap goes on.
        have hlonger : ∀ d ∈ gap ++ [c], isWordChar d = false := by
          intro d hd
          rcases List.mem_append.1 hd with hd | hd
          · exact hgap d hd
          · rw [List.mem_singleton.1 hd, hc]
        have hgo := ih before hlonger hcurrent start (fun h => absurd rfl h) follows
        have hblank : (follows && (gap ++ [c]).all isBlank) =
            (follows && gap.all isBlank && isBlank c) := by
          simp [Bool.and_assoc]
        rw [hblank] at hgo
        simp only [List.reverse_nil, List.append_nil, List.isEmpty_nil, Bool.false_eq_true,
          if_false, if_true] at hgo ⊢
        rwa [List.append_assoc, List.singleton_append, ← List.append_assoc] at hgo
      | cons d current =>
        -- The word ends here, and a gap begins.
        obtain rfl := hstart (List.cons_ne_nil d current)
        have hnone : ∀ e ∈ [c], isWordChar e = false := by simp [hc]
        have hgo := ih (before ++ gap ++ (d :: current).reverse) hnone (List.forall_mem_nil _)
          (byteLength (before ++ gap)) (fun h => absurd rfl h) true
        simp only [List.reverse_nil, List.append_nil, List.all_cons, List.all_nil, Bool.and_true,
          Bool.true_and, List.singleton_append] at hgo
        simp only [List.isEmpty_cons, Bool.false_eq_true, if_false]
        rw [wordsFrom_done [_]]
        exact .word hgap (by simp) (fun e he => hcurrent e (List.mem_reverse.1 he)) (by simp [hc])
          hgo

/-- The words that are found are those of the text. -/
theorem falls_words (text : List Char) : Falls [] false text (words text) :=
  falls_wordsFrom [] (List.forall_mem_nil _) (List.forall_mem_nil _) 0 (fun h => absurd rfl h) false
    text

/-- Whether only blanks stand between two offsets of a text. -/
def OnlyBlanks (text : List Char) (start stop : Nat) : Prop :=
  ∃ gap, slice? text start stop = some gap ∧ ∀ c ∈ gap, isBlank c = true

theorem onlyBlanks_append_iff (before gap after : List Char) :
    OnlyBlanks (before ++ gap ++ after) (byteLength before) (byteLength (before ++ gap)) ↔
      gap.all isBlank = true := by
  have hslice := slice?_append before gap after
  rw [← byteLength_append] at hslice
  rw [List.all_eq_true, OnlyBlanks, hslice]
  constructor
  · rintro ⟨gap', hgap', hblank⟩
    obtain rfl := Option.some.inj hgap'
    exact hblank
  · exact fun hblank => ⟨gap, rfl, hblank⟩

namespace Falls

/-- The words of the rest start behind what was read. -/
theorem le_start (h : Falls before follows rest ws) : ∀ w ∈ ws, byteLength before ≤ w.start := by
  induction h with
  | gap => exact List.forall_mem_nil _
  | word hgap hne hchars hrest h ih =>
    refine List.forall_mem_cons.2 ⟨?_, fun w hw => ?_⟩
    · rw [byteLength_append]
      exact Nat.le_add_right _ _
    · have hle := ih w hw
      rw [byteLength_append, byteLength_append] at hle
      omega

/-- Each word starts behind the one before. -/
theorem pairwise_before (h : Falls before follows rest ws) :
    (ws.map Word.piece).Pairwise Piece.Before := by
  induction h with
  | gap => exact .nil
  | @word before gap chars rest follows ws hgap hne hchars hrest h ih =>
    refine .cons (fun p hp => ?_) ih
    obtain ⟨w, hw, rfl⟩ := List.mem_map.1 hp
    have hle := h.le_start w hw
    have hpos : byteLength chars ≠ 0 := fun hzero => hne (byteLength_eq_zero.1 hzero)
    rw [byteLength_append] at hle
    show byteLength (before ++ gap) < w.start
    omega

/-- A word behind a gap is a run of the text, if what was read does not end inside a word. -/
theorem isRun_word {gap chars : List Char} (hgap : ∀ c ∈ gap, isWordChar c = false)
    (hne : chars ≠ []) (hchars : ∀ c ∈ chars, isWordChar c = true)
    (hrest : ∀ c ∈ rest.head?, isWordChar c = false)
    (hedge : before = [] ∨ ∀ c ∈ (gap ++ chars ++ rest).head?, isWordChar c = false) :
    IsRun (before ++ gap ++ chars ++ rest) ⟨byteLength (before ++ gap), chars⟩ := by
  refine .intro rfl hne hchars ?_ hrest
  rcases gap.eq_nil_or_concat' with rfl | ⟨front, last, rfl⟩
  · -- Without a gap the rest begins with the word, so nothing was read before it.
    obtain rfl | hhead := hedge
    · simp
    · obtain ⟨c, cs, rfl⟩ := List.exists_cons_of_ne_nil hne
      have hform := hchars c List.mem_cons_self
      rw [hhead c (by simp)] at hform
      cases hform
  · rw [← List.append_assoc, List.getLast?_concat]
    rintro c ⟨⟩
    exact hgap _ (by simp)

/-- The words of the rest are runs of the text. -/
theorem isRun (h : Falls before follows rest ws)
    (hedge : before = [] ∨ ∀ c ∈ rest.head?, isWordChar c = false) :
    ∀ w ∈ ws, IsRun (before ++ rest) w.piece := by
  induction h with
  | gap => exact List.forall_mem_nil _
  | @word before gap chars rest follows ws hgap hne hchars hrest h ih =>
    have htext : before ++ (gap ++ chars ++ rest) = before ++ gap ++ chars ++ rest := by
      simp only [List.append_assoc]
    rw [htext]
    exact List.forall_mem_cons.2 ⟨isRun_word hgap hne hchars hrest hedge, ih (.inr hrest)⟩

/-- A run that starts in the rest is one of its words. -/
theorem mem_of_isRun (h : Falls before follows rest ws)
    (hedge : before = [] ∨ ∀ c ∈ rest.head?, isWordChar c = false)
    (hp : IsRun (before ++ rest) p) (hle : byteLength before ≤ p.start) :
    p ∈ ws.map Word.piece := by
  induction h with
  | @gap before gap follows hgap =>
    have hstop := stop_le_of_slice? hp.slice?_eq
    rw [← List.append_nil (before ++ gap)] at hp
    exact absurd (hp.lt_stop hgap hle) (Nat.not_lt.2 hstop)
  | @word before gap chars rest follows ws hgap hne hchars hrest h ih =>
    have htext : before ++ (gap ++ chars ++ rest) = before ++ gap ++ chars ++ rest := by
      simp only [List.append_assoc]
    have hrun := isRun_word hgap hne hchars hrest hedge
    rw [htext] at hp
    rw [List.map_cons, List.mem_cons]
    rcases Nat.le_total (byteLength (before ++ gap)) p.start with hbehind | hahead
    · rcases hrun.eq_or_stop_le hp hbehind with heq | hstop
      · exact .inl heq.symm
      · right
        refine ih (.inr hrest) hp ?_
        rw [byteLength_append]
        exact hstop
    · rcases hp.eq_or_stop_le hrun hahead with heq | hstop
      · exact .inl heq
      · rw [List.append_assoc] at hp
        exact absurd (hp.lt_stop hgap hle) (Nat.not_lt.2 hstop)

/-- Of each word it is said whether it follows another with only blanks between. -/
theorem afterBlank_iff (h : Falls before follows rest ws) (htext : text = before ++ rest) :
    (∀ w ∈ ws.head?, (w.afterBlank = true ↔
      follows = true ∧ OnlyBlanks text (byteLength before) w.start)) ∧
    ws.IsChain fun v w => (w.afterBlank = true ↔ OnlyBlanks text v.piece.stop w.start) := by
  induction h with
  | gap => exact ⟨by simp, .nil⟩
  | @word before gap chars rest follows ws hgap hne hchars hrest h ih =>
    have hparts : text = before ++ gap ++ (chars ++ rest) := by
      rw [htext]
      simp only [List.append_assoc]
    have hbehind : text = before ++ gap ++ chars ++ rest := by
      rw [hparts]
      simp only [List.append_assoc]
    obtain ⟨hhead, hchain⟩ := ih hbehind
    refine ⟨?_, List.isChain_cons.2 ⟨?_, hchain⟩⟩
    · rintro w ⟨⟩
      rw [Bool.and_eq_true, hparts, onlyBlanks_append_iff]
    · -- The next word follows this one, which stops where the rest begins.
      intro w hw
      rw [hhead w hw, byteLength_append]
      exact and_iff_right rfl

end Falls

/-! ### The words of a text -/

/-- The words of a text: its runs in order, and with each of them whether another run comes before
it with only blanks between. -/
structure AreWords (text : List Char) (ws : List Word) : Prop where
  mem_iff : ∀ p, p ∈ ws.map Word.piece ↔ IsRun text p
  inOrder : (ws.map Word.piece).Pairwise Piece.Before
  first : ∀ w ∈ ws.head?, w.afterBlank = false
  neighbours : ws.IsChain fun v w => (w.afterBlank = true ↔ OnlyBlanks text v.piece.stop w.start)

/-- The words that are found are the words of the text. -/
theorem areWords_words (text : List Char) : AreWords text (words text) where
  mem_iff p := by
    constructor
    · intro hp
      obtain ⟨w, hw, rfl⟩ := List.mem_map.1 hp
      exact (falls_words text).isRun (.inl rfl) w hw
    · intro hp
      exact (falls_words text).mem_of_isRun (.inl rfl) hp (Nat.zero_le _)
  inOrder := (falls_words text).pairwise_before
  first w hw := by
    have hiff := ((falls_words text).afterBlank_iff rfl).1 w hw
    simpa using hiff
  neighbours := ((falls_words text).afterBlank_iff rfl).2

/-- Words that stand at the same places and begin alike are the same, as what is said of each of the
others is determined. -/
theorem eq_of_map_piece_eq (hpieces : ws.map Word.piece = ws'.map Word.piece)
    (hfirst : ∀ w ∈ ws.head?, ∀ w' ∈ ws'.head?, w.afterBlank = w'.afterBlank)
    (h : ws.IsChain fun v w => (w.afterBlank = true ↔ OnlyBlanks text v.piece.stop w.start))
    (h' : ws'.IsChain fun v w => (w.afterBlank = true ↔ OnlyBlanks text v.piece.stop w.start)) :
    ws = ws' := by
  induction ws generalizing ws' with
  | nil => exact (List.map_eq_nil_iff.1 hpieces.symm).symm
  | cons w ws ih =>
    obtain ⟨w', rest, rfl, hpiece, hrest⟩ := List.map_eq_cons_iff.1 hpieces.symm
    obtain ⟨hnext, hchain⟩ := List.isChain_cons.1 h
    obtain ⟨hnext', hchain'⟩ := List.isChain_cons.1 h'
    have hflag := hfirst w rfl w' rfl
    have hsame : w' = w := by
      obtain ⟨start, chars, afterBlank⟩ := w
      obtain ⟨start', chars', afterBlank'⟩ := w'
      obtain ⟨rfl, rfl⟩ := Piece.mk.inj hpiece
      obtain rfl : afterBlank = afterBlank' := hflag
      rfl
    rw [hsame] at hnext' ⊢
    congr 1
    refine ih hrest.symm ?_ hchain hchain'
    -- The words that come next stand at one place, so the same is said of both.
    intro v hv v' hv'
    have hplace : v'.piece = v.piece := by
      have hhead := congrArg List.head? hrest
      rw [List.head?_map, List.head?_map, Option.mem_def.1 hv, Option.mem_def.1 hv'] at hhead
      exact Option.some.inj hhead
    have hstart : v'.start = v.start := congrArg Piece.start hplace
    rw [Bool.eq_iff_iff, hnext v hv, hnext' v' hv', hstart]

/-- A text has one list of words only. -/
theorem AreWords.unique (h : AreWords text ws) (h' : AreWords text ws') : ws = ws' := by
  have hpieces : ws.map Word.piece = ws'.map Word.piece :=
    List.Subset.antisymm_of_pairwise h.inOrder h'.inOrder
      (fun p hp => (h'.mem_iff p).2 ((h.mem_iff p).1 hp))
      (fun p hp => (h.mem_iff p).2 ((h'.mem_iff p).1 hp))
  refine eq_of_map_piece_eq hpieces (fun w hw w' hw' => ?_) h.neighbours h'.neighbours
  rw [h.first w hw, h'.first w' hw']

theorem areWords_iff : AreWords text ws ↔ ws = words text := by
  constructor
  · exact fun h => h.unique (areWords_words text)
  · rintro rfl
    exact areWords_words text

example : (words " it's, 'a'  B b".toList).map
      (fun w => (w.start, String.ofList w.chars, w.afterBlank)) =
    [(1, "it's", false), (7, "'a'", false), (12, "B", true), (14, "b", true)] := by
  decide +kernel

end ProseLinter.NoDoubledWord
