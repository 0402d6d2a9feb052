import ProseLinter.Proofs.Loading.Resolution
import ProseLinter.Proofs.Text.Piece
import ProseLinter.Proofs.Text.Trim
import ProseLinter.Rule.NoDoubledWord
import ProseLinter.Rule.NoTodo
import ProseLinter.Rule.Pattern
import ProseLinter.Rule.SentenceLength

/-!
# What searches match

The rules find their matches in different ways: some look for a text in a folded copy, others cut
the text into sentences or words. Each of them cuts its matches out of the text that it searches.
For each rule this module has the search in which every cut may fail, and what is matched.

* `NoTodo.search?_eq`, `SentenceLength.search?_eq`, `NoDoubledWord.search?_eq` and
  `PatternRule.search?_eq` : no cut fails.
* `Match.ReadsIn` : a match is what stands at its offset in the text; it is so for the matches of
  every rule.
-/

namespace ProseLinter

/-- A match is what stands at its offset in the text. -/
def Match.ReadsIn (m : Match) (text : List Char) : Prop :=
  Text.slice? text m.start (m.start + Text.byteLength m.chars) = some m.chars

/-- Where a function that may fail does not fail on a list, it maps the list. -/
theorem mapM_eq_some_map {α β : Type} {f? : α → Option β} {f : α → β} {xs : List α}
    (h : ∀ x ∈ xs, f? x = some (f x)) : xs.mapM f? = some (xs.map f) := by
  induction xs with
  | nil => rfl
  | cons x xs ih =>
    have hhead := h x List.mem_cons_self
    have htail := ih fun y hy => h y (List.mem_cons_of_mem x hy)
    rw [List.mapM_cons, hhead, htail]
    rfl

/-- The offsets around a slice of a text that may be folded are those around a slice of the text
itself. -/
theorem Text.exists_slice?_of_fold {f : Char → Char} (hf : ∀ c, (f c).utf8Size = c.utf8Size)
    {exact : Bool} {text ds : List Char} {start stop : Nat}
    (h : slice? (if exact then text else text.map f) start stop = some ds) :
    ∃ es, slice? text start stop = some es ∧ (if exact then es else es.map f) = ds := by
  cases exact with
  | true => exact ⟨ds, h, rfl⟩
  | false => exact exists_slice?_of_map hf h

/-! ### Todo markers -/

namespace NoTodo

variable {o : Options} {text : List Char}

/-- The matches in a text; none when a marker cannot be cut out of the text. -/
def search? (o : Options) (text : List Char) : Option (List Match) := do
  let found ← (hits o text).mapM fun (start, length) => do
    let matched ← Text.slice? text start (start + length)
    return match? o start matched
  return found.reduceOption

/-- A match is a marker as the text writes it, and none that is passed over. -/
structure Matched (o : Options) (m : Match) : Prop where
  isMarker : ∃ pattern ∈ o.effectivePatterns, o.fold m.chars = o.fold pattern.toList
  ignores_eq : o.ignores m.chars = false
  text_eq : m.text = messageText m.chars
  severity_eq : m.severity = .warning

theorem mem_of_mem_dedupOffsets {hits : List Hit} {h : Hit} (hmem : h ∈ dedupOffsets hits) :
    h ∈ hits := by
  fun_induction dedupOffsets hits with
  | case1 => exact hmem
  | case2 a => exact hmem
  | case3 a b rest _ ih =>
    rcases List.mem_cons.1 (ih hmem) with rfl | hrest
    · exact List.mem_cons_self
    · exact List.mem_cons_of_mem _ (List.mem_cons_of_mem _ hrest)
  | case4 a b rest _ ih =>
    rcases List.mem_cons.1 hmem with rfl | hrest
    · exact List.mem_cons_self
    · exact List.mem_cons_of_mem _ (ih hrest)

/-- At every hit the text has a marker. -/
theorem exists_slice?_of_mem_hits {start length : Nat} (h : (start, length) ∈ hits o text) :
    ∃ matched, Text.slice? text start (start + length) = some matched ∧
      ∃ pattern ∈ o.effectivePatterns, o.fold matched = o.fold pattern.toList := by
  -- Sorting hits and passing over those at one offset adds none.
  have hall : (start, length) ∈ allHits o text := List.mem_mergeSort.1 (mem_of_mem_dedupOffsets h)
  obtain ⟨pattern, hpattern, hhit⟩ := List.mem_flatMap.1 hall
  obtain ⟨at', hoccurs, heq⟩ := List.mem_map.1 hhit
  obtain ⟨rfl, rfl⟩ := Prod.mk.inj heq
  obtain ⟨matched, hmatched, hfold⟩ := Text.exists_slice?_of_fold Text.utf8Size_toUpper
    (Text.slice?_of_mem_occurrences hoccurs)
  exact ⟨matched, hmatched, pattern, hpattern, hfold⟩

/-- No cut fails. -/
theorem search?_eq (o : Options) (text : List Char) : search? o text = some (search o text) := by
  have hcuts : ∀ hit ∈ hits o text,
      (do
        let matched ← Text.slice? text hit.1 (hit.1 + hit.2)
        return match? o hit.1 matched) =
      some (match? o hit.1 ((Text.slice? text hit.1 (hit.1 + hit.2)).getD [])) := by
    rintro ⟨start, length⟩ hhit
    obtain ⟨matched, hmatched, -⟩ := exists_slice?_of_mem_hits hhit
    rw [hmatched]
    rfl
  have hfound := mapM_eq_some_map hcuts
  rw [search?, hfound, search]
  unfold List.reduceOption
  simp [List.filterMap_map]

/-- The matches are markers in the text. -/
theorem readsIn_of_mem_search {m : Match} (h : m ∈ search o text) :
    m.ReadsIn text ∧ Matched o m := by
  obtain ⟨⟨start, length⟩, hhit, hmatch⟩ := List.mem_filterMap.1 h
  obtain ⟨matched, hmatched, hmarker⟩ := exists_slice?_of_mem_hits hhit
  simp only [hmatched, Option.getD_some, match?] at hmatch
  split at hmatch
  · simp at hmatch
  · next hignores =>
    obtain rfl := Option.some.inj hmatch
    rw [Text.stop_of_slice? hmatched] at hmatched
    exact ⟨hmatched, hmarker, by simpa using hignores, rfl, rfl⟩

/-- What a check finds with options that can be read. -/
theorem check_of_readOptions {c : Rule.Context} (h : c.readOptions {} Options.decode = .ok o) :
    check c = .ok (c.scan .str (search o)) := by
  rw [check, h]
  rfl

/-- A check without options that can be read fails. -/
theorem check_of_readOptions_error {c : Rule.Context} {e : RuleError}
    (h : c.readOptions {} Options.decode = .error e) : check c = .error e := by
  rw [check, h]
  rfl

end NoTodo

/-! ### Long sentences -/

namespace SentenceLength

variable {text : List Char}

/-- The matches in a text; none when a sentence cannot be cut out of the text. -/
def search? (max : Nat) (text : List Char) : Option (List Match) := do
  let found ← Text.pieces? isTerminator text
  return (found.filterMap trimPiece?).filterMap (match? max)

/-- A match is a sentence that is too long. -/
structure Matched (max : Nat) (text : List Char) (m : Match) : Prop where
  isSentence : ⟨m.start, m.chars⟩ ∈ sentences text
  max_lt : max < m.chars.length
  text_eq : m.text = messageText max m.chars.length
  severity_eq : m.severity = .error

/-- No cut fails. -/
theorem search?_eq (max : Nat) (text : List Char) : search? max text = some (search max text) := by
  rw [search?, Text.pieces?_eq]
  rfl

theorem trimPiece?_eq (p : Text.Piece) :
    trimPiece? p = if Text.trim p.chars = [] then none
      else some ⟨p.start + Text.byteLength (p.chars.takeWhile Text.isBlank),
        Text.trim p.chars⟩ := by
  have hlead : Text.byteLength p.chars - Text.byteLength (Text.trimStart p.chars) =
      Text.byteLength (p.chars.takeWhile Text.isBlank) := by
    have hlength := congrArg Text.byteLength (Text.trimStart_append p.chars)
    rw [Text.byteLength_append] at hlength
    omega
  simp only [trimPiece?, hlead, List.isEmpty_iff]
  rfl

/-- A piece that is left out is blank. -/
theorem isBlank_of_trimPiece?_eq_none {p : Text.Piece} (h : trimPiece? p = none) :
    ∀ c ∈ p.chars, Text.isBlank c = true := by
  obtain ⟨trail, htrimmed⟩ := Text.exists_isTrimmed p.chars
  rw [trimPiece?_eq] at h
  split at h
  · next hnil => exact htrimmed.eq_nil_iff.1 hnil
  · cases h

/-- A sentence is what is left of a piece without the blanks around it. -/
theorem exists_isTrimmed_of_trimPiece? {p q : Text.Piece} (h : trimPiece? p = some q) :
    q.chars ≠ [] ∧ ∃ lead trail, Text.IsTrimmed p.chars lead q.chars trail ∧
      q.start = p.start + Text.byteLength lead := by
  obtain ⟨trail, htrimmed⟩ := Text.exists_isTrimmed p.chars
  rw [trimPiece?_eq] at h
  split at h
  · cases h
  · next hne =>
    obtain rfl := Option.some.inj h
    exact ⟨hne, _, trail, htrimmed, rfl⟩

/-- A piece without the blanks around it is a slice too. -/
theorem slice?_of_trimPiece? {p q : Text.Piece} (hq : trimPiece? p = some q)
    (hp : Text.slice? text p.start p.stop = some p.chars) :
    Text.slice? text q.start q.stop = some q.chars := by
  obtain ⟨-, lead, trail, htrimmed, hstart⟩ := exists_isTrimmed_of_trimPiece? hq
  -- A slice of the piece is one of the text, and the piece moves its offsets.
  have hinner := Text.slice?_append lead q.chars trail
  rw [← htrimmed.eq_append] at hinner
  have houter := Text.slice?_of_slice? hp hinner
  rwa [← Nat.add_assoc, ← hstart] at houter

/-- A sentence is the slice of the text between its offsets. -/
theorem slice?_of_mem_sentences {q : Text.Piece} (h : q ∈ sentences text) :
    Text.slice? text q.start q.stop = some q.chars := by
  obtain ⟨p, hp, hq⟩ := List.mem_filterMap.1 h
  exact slice?_of_trimPiece? hq (Text.slice?_of_mem_pieces hp)

/-- The matches are sentences in the text. -/
theorem readsIn_of_mem_search {max : Nat} {m : Match} (h : m ∈ search max text) :
    m.ReadsIn text ∧ Matched max text m := by
  obtain ⟨sentence, hsentence, hmatch⟩ := List.mem_filterMap.1 h
  rw [match?] at hmatch
  split at hmatch
  · next hlong =>
    obtain rfl := Option.some.inj hmatch
    exact ⟨slice?_of_mem_sentences hsentence, hsentence, hlong, rfl, rfl⟩
  · simp at hmatch

/-- What a check finds with options that can be read: there is no limit of zero. -/
theorem check_of_readOptions {c : Rule.Context} {o : Options}
    (h : c.readOptions {} Options.decode = .ok o) :
    check c =
      if o.max = 0 then .error (.invalidOptions c.ruleId "`max` must be greater than zero")
      else .ok (c.scan .paragraph (search o.max)) := by
  rw [check, h]
  simp only [bind, Except.bind]
  split
  · next hzero => rw [if_pos (by simpa using hzero)]; rfl
  · next hzero => rw [if_neg (by simpa using hzero)]; rfl

/-- A check without options that can be read fails. -/
theorem check_of_readOptions_error {c : Rule.Context} {e : RuleError}
    (h : c.readOptions {} Options.decode = .error e) : check c = .error e := by
  rw [check, h]
  rfl

end SentenceLength

/-! ### Doubled words -/

namespace NoDoubledWord

variable {text : List Char}

/-- The words of the rest of a text that begins at `offset`, each of them cut out of the text; none
when a cut is not possible. `start?` is the offset of an unfinished word, and `afterBlank` says
whether the word that is unfinished or comes next follows another with only blanks between. -/
def wordsFrom? (text : List Char) (start? : Option Nat) (afterBlank : Bool) (offset : Nat) :
    List Char → Option (List Word)
  | [] =>
    match start? with
    | some start => do
      let chars ← Text.slice? text start (Text.byteLength text)
      return [⟨start, chars, afterBlank⟩]
    | none => some []
  | c :: cs =>
    let next := offset + c.utf8Size
    if isWordChar c then wordsFrom? text (some (start?.getD offset)) afterBlank next cs
    else
      match start? with
      | some start => do
        let chars ← Text.slice? text start offset
        let rest ← wordsFrom? text none (Text.isBlank c) next cs
        return ⟨start, chars, afterBlank⟩ :: rest
      | none => wordsFrom? text none (afterBlank && Text.isBlank c) next cs

/-- The words of a text, each of them cut out of the text; none when a cut is not possible. -/
def words? (text : List Char) : Option (List Word) :=
  wordsFrom? text none false 0 text

/-- The matches in a text; none when a word cannot be cut out of the text. -/
def search? (text : List Char) : Option (List Match) := do
  let tokens ← words? text
  return searchAmong tokens

/-- A match is a word that repeats the one before it. -/
structure Matched (text : List Char) (m : Match) : Prop where
  isRepeated : ∃ before word, [before, word] <:+: words text ∧ repeats before word = true ∧
    m.start = word.start ∧ m.chars = word.chars
  text_eq : m.text = messageText m.chars
  severity_eq : m.severity = .error

/-- The words before come first. -/
theorem wordsFrom_done (done : List Word) (start : Nat) (current : List Char) (afterBlank : Bool)
    (offset : Nat) (cs : List Char) :
    wordsFrom done start current afterBlank offset cs =
      done.reverse ++ wordsFrom [] start current afterBlank offset cs := by
  induction cs generalizing done start current afterBlank offset with
  | nil => cases current <;> simp [wordsFrom]
  | cons c cs ih =>
    rw [wordsFrom, wordsFrom]
    split
    · exact ih ..
    · split
      · exact ih ..
      · rw [ih, ih [_]]
        simp

/-- What stands before the rest of a text, and the characters of the word that is unfinished there,
decide which cuts are made; all of them are possible. -/
theorem wordsFrom?_eq (before current : List Char) (start : Nat) (afterBlank : Bool)
    (cs : List Char) (hstart : current ≠ [] → start = Text.byteLength before) :
    wordsFrom? (before ++ current.reverse ++ cs)
        (if current.isEmpty then none else some start) afterBlank
        (Text.byteLength (before ++ current.reverse)) cs =
      some (wordsFrom [] start current afterBlank (Text.byteLength (before ++ current.reverse))
        cs) := by
  induction cs generalizing before current start afterBlank with
  | nil =>
    cases current with
    | nil => simp [wordsFrom?, wordsFrom]
    | cons d current =>
      obtain rfl := hstart (List.cons_ne_nil d current)
      have hcut := Text.slice?_append before (d :: current).reverse []
      rw [List.append_nil, ← Text.byteLength_append] at hcut
      simp only [List.isEmpty_cons, Bool.false_eq_true, if_false, wordsFrom?, List.append_nil, hcut]
      rfl
  | cons c cs ih =>
    have htext : before ++ current.reverse ++ c :: cs = before ++ current.reverse ++ [c] ++ cs := by
      simp
    have hnext : Text.byteLength (before ++ current.reverse) + c.utf8Size =
        Text.byteLength (before ++ current.reverse ++ [c]) := by
      simp [Nat.add_assoc]
    -- After the character the word goes on, or there is none that is unfinished.
    have hword (start' : Nat) (h : start' = Text.byteLength before) :=
      ih before (c :: current) start' afterBlank fun _ => h
    have hgap (afterBlank' : Bool) :=
      ih (before ++ current.reverse ++ [c]) [] start afterBlank' fun h => absurd rfl h
    rw [List.reverse_cons, ← List.append_assoc] at hword
    rw [List.reverse_nil, List.append_nil] at hgap
    rw [wordsFrom?.eq_def, wordsFrom]
    simp only [hnext, htext]
    split
    · cases current with
      | nil => exact hword _ (by simp)
      | cons d current => exact hword start (hstart (List.cons_ne_nil d current))
    · cases current with
      | nil => exact hgap ..
      | cons d current =>
        obtain rfl := hstart (List.cons_ne_nil d current)
        have hcut := Text.slice?_append before (d :: current).reverse ([c] ++ cs)
        rw [← Text.byteLength_append, ← List.append_assoc] at hcut
        have hrest : wordsFrom? (before ++ (d :: current).reverse ++ [c] ++ cs) none
            (Text.isBlank c) (Text.byteLength (before ++ (d :: current).reverse ++ [c])) cs =
          some _ := hgap (Text.isBlank c)
        simp only [List.isEmpty_cons, Bool.false_eq_true, if_false, hcut, hrest]
        rw [wordsFrom_done [_]]
        rfl

/-- Cutting words out of a text never fails and gives its words. -/
theorem words?_eq (text : List Char) : words? text = some (words text) :=
  wordsFrom?_eq [] [] 0 false text fun h => absurd rfl h

/-- No cut fails. -/
theorem search?_eq (text : List Char) : search? text = some (search text) := by
  rw [search?, words?_eq]
  rfl

theorem slice?_of_mem_wordsFrom? {start? : Option Nat} {afterBlank : Bool} {offset : Nat}
    {cs : List Char} {ws : List Word} {w : Word}
    (h : wordsFrom? text start? afterBlank offset cs = some ws) (hw : w ∈ ws) :
    Text.slice? text w.start (w.start + Text.byteLength w.chars) = some w.chars := by
  induction cs generalizing start? afterBlank offset ws with
  | nil =>
    cases start? with
    | none =>
      obtain rfl := Option.some.inj h
      simp at hw
    | some start =>
      obtain ⟨chars, hchars, h⟩ := Option.bind_eq_some_iff.1 h
      obtain rfl := Option.some.inj h
      obtain rfl := List.mem_singleton.1 hw
      exact Text.slice?_stop hchars
  | cons c cs ih =>
    rw [wordsFrom?.eq_def] at h
    dsimp only at h
    split at h
    · exact ih h hw
    · split at h
      · obtain ⟨chars, hchars, h⟩ := Option.bind_eq_some_iff.1 h
        obtain ⟨rest, hrest, h⟩ := Option.bind_eq_some_iff.1 h
        obtain rfl := Option.some.inj h
        rcases List.mem_cons.1 hw with rfl | hw
        · exact Text.slice?_stop hchars
        · exact ih hrest hw
      · exact ih h hw

/-- A word is the slice of the text between its offsets. -/
theorem slice?_of_mem_words {w : Word} (h : w ∈ words text) :
    Text.slice? text w.start (w.start + Text.byteLength w.chars) = some w.chars :=
  slice?_of_mem_wordsFrom? (words?_eq text) h

/-- Elements that are next to each other in a list. -/
theorem isInfix_of_mem_zip_drop {α : Type} {a b : α} {xs : List α}
    (h : (a, b) ∈ xs.zip (xs.drop 1)) : [a, b] <:+: xs := by
  induction xs with
  | nil => simp at h
  | cons x xs ih =>
    cases xs with
    | nil => simp at h
    | cons y ys =>
      rcases List.mem_cons.1 h with heq | hrest
      · obtain ⟨rfl, rfl⟩ := Prod.mk.inj heq
        exact ⟨[], ys, rfl⟩
      · exact (ih hrest).trans (List.suffix_cons x (y :: ys)).isInfix

/-- The matches are words in the text. -/
theorem readsIn_of_mem_search {m : Match} (h : m ∈ search text) :
    m.ReadsIn text ∧ Matched text m := by
  obtain ⟨⟨before, word⟩, hpair, hmatch⟩ := List.mem_filterMap.1 h
  have hneighbours := isInfix_of_mem_zip_drop hpair
  have hword : word ∈ words text := hneighbours.subset (by simp)
  simp only [match?] at hmatch
  split at hmatch
  · next hrepeats =>
    obtain rfl := Option.some.inj hmatch
    exact ⟨slice?_of_mem_words hword, ⟨before, word, hneighbours, hrepeats, rfl, rfl⟩, rfl, rfl⟩
  · simp at hmatch

end NoDoubledWord

/-! ### Patterns -/

namespace PatternRule

variable {r : PatternRule} {text : List Char}

/-- The matches in a text; none when an occurrence cannot be cut out of the text. -/
def search? (r : PatternRule) (text : List Char) : Option (List Match) :=
  (r.hits text).mapM fun h => do
    let matched ← Text.slice? text h.start h.stop
    return h.toMatch matched

/-- A match is a pattern as the text writes it. -/
def Matched (r : PatternRule) (m : Match) : Prop :=
  ∃ p ∈ r.patterns, r.fold m.chars = p.needle ∧ m.text = fillMatch p.text m.chars ∧
    m.severity = p.severity

/-- At every hit the text has a pattern. -/
theorem exists_slice?_of_mem_hits {h : Hit} (hhit : h ∈ r.hits text) :
    h.pattern ∈ r.patterns ∧ ∃ matched, Text.slice? text h.start h.stop = some matched ∧
      r.fold matched = h.pattern.needle := by
  obtain ⟨⟨pattern, index⟩, hpattern, hoccurrence⟩ :=
    List.mem_flatMap.1 (List.mem_mergeSort.1 hhit)
  obtain ⟨start, hoccurs, rfl⟩ := List.mem_map.1 hoccurrence
  obtain ⟨matched, hmatched, hfold⟩ := Text.exists_slice?_of_fold Text.utf8Size_toLower
    (Text.slice?_of_mem_occurrences hoccurs)
  exact ⟨List.fst_mem_of_mem_zipIdx hpattern, matched, hmatched, hfold⟩

/-- No cut fails. -/
theorem search?_eq (r : PatternRule) (text : List Char) :
    r.search? text = some (r.search text) := by
  refine mapM_eq_some_map fun h hhit => ?_
  obtain ⟨-, matched, hmatched, -⟩ := exists_slice?_of_mem_hits hhit
  rw [hmatched]
  rfl

/-- The patterns of a rule that a module describes are not empty. -/
theorem needle_ne_nil_of_ofModule {m : PatternModule} (h : ofModule m = .ok r) :
    ∀ p ∈ r.patterns, p.needle ≠ [] := by
  intro p hp
  rw [ofModule] at h
  split at h
  · cases h
  · split at h
    · cases h
    · cases hpatterns : m.patterns.mapM (patternOf m) with
      | error e => rw [hpatterns] at h; cases h
      | ok patterns =>
        rw [hpatterns] at h
        cases h
        obtain ⟨e, -, he⟩ := exists_eq_ok_of_mem_mapM hpatterns p hp
        rw [patternOf] at he
        split at he
        · cases he
        · next hne =>
          cases he
          -- Folding keeps the number of characters.
          have hchars : e.pattern.toList ≠ [] := by simpa using hne
          dsimp only
          split
          · exact hchars
          · simpa [Text.asciiLower] using hchars

/-- The matches are patterns in the text. -/
theorem readsIn_of_mem_search {m : Match} (h : m ∈ r.search text) :
    m.ReadsIn text ∧ r.Matched m := by
  obtain ⟨hit, hhit, rfl⟩ := List.mem_map.1 h
  obtain ⟨hpattern, matched, hmatched, hfold⟩ := exists_slice?_of_mem_hits hhit
  rw [hmatched, Option.getD_some]
  rw [Text.stop_of_slice? hmatched] at hmatched
  exact ⟨hmatched, hit.pattern, hpattern, hfold, rfl, rfl⟩

end PatternRule

end ProseLinter
