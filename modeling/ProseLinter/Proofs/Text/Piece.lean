import Mathlib.Data.List.Pairwise
import ProseLinter.Proofs.Text.Slice
import ProseLinter.Text.Piece

/-!
# Pieces as slices

The pieces of a text can also be had by cutting each of them out of the text between two offsets.
Both ways give the same pieces, so all those cuts are possible.

* `pieces?_eq` : cutting pieces out of the text never fails and gives its pieces.
* `slice?_of_mem_pieces` : a piece is the slice between its offsets.
* `pieces_append` : pieces of two texts one after the other, the first of which ends with a piece.
* `isCut_parts` and `pieces_eq_placed` : what the pieces are, and where they start.
* `CharAt` : a character at an offset; `CharAt.exists_mem_pieces` finds it in a piece.
* `Apart` : pieces that come one behind the other; `apart_placed` says that those of a text do.
-/

namespace ProseLinter.Text

variable {ends : Char → Bool} {cs ds : List Char}

/-- The piece so many bytes later. -/
def Piece.shift (p : Piece) (bytes : Nat) : Piece :=
  { p with start := p.start + bytes }

/-- The pieces of the rest of a text that begins at `offset`, inside a piece that starts at `start`,
each of them cut out of the text; none when a cut is not possible. -/
def piecesFrom? (text : List Char) (ends : Char → Bool) (start offset : Nat) :
    List Char → Option (List Piece)
  | [] =>
    if start < byteLength text then do
      let chars ← slice? text start (byteLength text)
      return [⟨start, chars⟩]
    else some []
  | c :: cs =>
    let next := offset + c.utf8Size
    if ends c then do
      let chars ← slice? text start next
      let rest ← piecesFrom? text ends next next cs
      return ⟨start, chars⟩ :: rest
    else piecesFrom? text ends start next cs

/-- The pieces of a text, each of them cut out of the text; none when a cut is not possible. -/
def pieces? (ends : Char → Bool) (text : List Char) : Option (List Piece) :=
  piecesFrom? text ends 0 0 text

/-- The pieces before come first. -/
theorem piecesFrom_done (done : List Piece) (start : Nat) (current : List Char) (offset : Nat)
    (cs : List Char) :
    piecesFrom ends done start current offset cs =
      done.reverse ++ piecesFrom ends [] start current offset cs := by
  induction cs generalizing done start current offset with
  | nil => cases current <;> simp [piecesFrom]
  | cons c cs ih =>
    rw [piecesFrom, piecesFrom]
    split
    · rw [ih, ih [_]]
      simp
    · exact ih ..

/-- Characters that end no piece go on with the one that is unfinished. -/
theorem piecesFrom_of_no_end (h : ∀ c ∈ cs, ends c = false) (start : Nat)
    {current : List Char} (hcurrent : current ≠ []) (offset : Nat) :
    piecesFrom ends [] start current offset cs = [⟨start, current.reverse ++ cs⟩] := by
  induction cs generalizing current offset with
  | nil => simp [piecesFrom, hcurrent]
  | cons c cs ih =>
    rw [List.forall_mem_cons] at h
    rw [piecesFrom]
    simp only [h.1, Bool.false_eq_true, if_false]
    rw [ih h.2 (List.cons_ne_nil c current)]
    simp

/-- A text in which no character ends a piece is one piece. -/
theorem pieces_of_no_end (hcs : cs ≠ []) (h : ∀ c ∈ cs, ends c = false) :
    pieces ends cs = [⟨0, cs⟩] := by
  cases cs with
  | nil => exact absurd rfl hcs
  | cons c cs =>
    rw [List.forall_mem_cons] at h
    rw [pieces, piecesFrom]
    simp only [h.1, Bool.false_eq_true, if_false]
    exact piecesFrom_of_no_end h.2 0 (List.cons_ne_nil c []) _

/-- Offsets do not matter for where a text is cut. -/
theorem piecesFrom_shift (bytes start : Nat) (current : List Char) (offset : Nat)
    (cs : List Char) :
    piecesFrom ends [] (start + bytes) current (offset + bytes) cs =
      (piecesFrom ends [] start current offset cs).map (·.shift bytes) := by
  induction cs generalizing start current offset with
  | nil => cases current <;> simp [piecesFrom, Piece.shift]
  | cons c cs ih =>
    rw [piecesFrom, piecesFrom, Nat.add_right_comm offset bytes]
    split
    · rw [piecesFrom_done [_], piecesFrom_done [_], ih, List.map_append]
      rfl
    · exact ih ..

/-- What stands before the rest of a text, and the characters of the piece that is unfinished there,
decide which cuts are made; all of them are possible. -/
theorem piecesFrom?_eq (before current cs : List Char) :
    piecesFrom? (before ++ current.reverse ++ cs) ends (byteLength before)
        (byteLength (before ++ current.reverse)) cs =
      some (piecesFrom ends [] (byteLength before) current
        (byteLength (before ++ current.reverse)) cs) := by
  induction cs generalizing before current with
  | nil =>
    cases current with
    | nil => simp [piecesFrom?, piecesFrom]
    | cons d current =>
      -- The text ends inside a piece, which has at least the character `d`.
      have hcut := slice?_append before (d :: current).reverse []
      have hpos : byteLength before <
          byteLength (before ++ (d :: current).reverse ++ []) := by
        have := d.utf8Size_pos
        simp only [byteLength_append, List.reverse_cons, byteLength_cons]
        omega
      rw [piecesFrom?, if_pos hpos]
      rw [List.append_nil, ← byteLength_append] at hcut
      rw [List.append_nil, hcut]
      rfl
  | cons c cs ih =>
    have hnext : byteLength (before ++ current.reverse) + c.utf8Size =
        byteLength (before ++ (c :: current).reverse) := by
      simp [Nat.add_assoc]
    have htext : before ++ current.reverse ++ c :: cs =
        before ++ (c :: current).reverse ++ cs := by simp
    rw [piecesFrom?, piecesFrom]
    simp only [hnext]
    split
    -- A character that ends the piece is its last one, and the next piece begins behind it.
    · have hcut := slice?_append before (c :: current).reverse cs
      have hrest := ih (before ++ (c :: current).reverse) []
      rw [List.reverse_nil, List.append_nil] at hrest
      rw [← byteLength_append] at hcut
      rw [htext, hcut, hrest, piecesFrom_done [_]]
      rfl
    · rw [htext]
      exact ih before (c :: current)

/-- Cutting pieces out of a text never fails and gives its pieces. -/
theorem pieces?_eq (ends : Char → Bool) (text : List Char) :
    pieces? ends text = some (pieces ends text) :=
  piecesFrom?_eq [] [] text

/-- A slice that is made a piece stops where the piece does. -/
theorem slice?_stop {text chars : List Char} {start stop : Nat}
    (h : slice? text start stop = some chars) :
    slice? text start (Piece.stop ⟨start, chars⟩) = some chars := by
  rwa [Piece.stop, ← stop_of_slice? h]

theorem slice?_of_mem_piecesFrom? {text : List Char} {start offset : Nat} {ps : List Piece}
    {p : Piece} (h : piecesFrom? text ends start offset cs = some ps) (hp : p ∈ ps) :
    slice? text p.start p.stop = some p.chars := by
  induction cs generalizing start offset ps with
  | nil =>
    rw [piecesFrom?] at h
    split at h
    · obtain ⟨chars, hchars, h⟩ := Option.bind_eq_some_iff.1 h
      obtain rfl := Option.some.inj h
      obtain rfl := List.mem_singleton.1 hp
      exact slice?_stop hchars
    · obtain rfl := Option.some.inj h
      simp at hp
  | cons c cs ih =>
    rw [piecesFrom?] at h
    split at h
    · obtain ⟨chars, hchars, h⟩ := Option.bind_eq_some_iff.1 h
      obtain ⟨rest, hrest, h⟩ := Option.bind_eq_some_iff.1 h
      obtain rfl := Option.some.inj h
      rcases List.mem_cons.1 hp with rfl | hp
      · exact slice?_stop hchars
      · exact ih hrest hp
    · exact ih h hp

/-- A piece is the slice of the text between its offsets. -/
theorem slice?_of_mem_pieces {text : List Char} {p : Piece} (h : p ∈ pieces ends text) :
    slice? text p.start p.stop = some p.chars :=
  slice?_of_mem_piecesFrom? (pieces?_eq ends text) h

/-- The pieces of the rest of a text whose first characters end with a piece: those of the first
characters, and those of the others with their offsets moved. -/
theorem piecesFrom_append {last : Char} (hlast : ends last = true) (start : Nat)
    (current : List Char) (offset : Nat) (cs ds : List Char) :
    piecesFrom ends [] start current offset (cs ++ last :: ds) =
      piecesFrom ends [] start current offset (cs ++ [last]) ++
        (pieces ends ds).map (·.shift (offset + byteLength (cs ++ [last]))) := by
  induction cs generalizing start current offset with
  | nil =>
    -- Behind `last` no piece is unfinished, as at the start of a text.
    simp only [List.nil_append, piecesFrom, hlast, if_true]
    rw [piecesFrom_done [_], pieces, ← piecesFrom_shift]
    simp [byteLength_cons]
  | cons c cs ih =>
    have hlength : offset + byteLength (c :: cs ++ [last]) =
        offset + c.utf8Size + byteLength (cs ++ [last]) := by
      simp [Nat.add_assoc]
    rw [hlength]
    simp only [List.cons_append, piecesFrom]
    split
    · rw [piecesFrom_done [_], piecesFrom_done [_], ih, List.append_assoc]
    · exact ih ..

/-- The pieces of two texts one after the other, where the first one ends with a piece: those of
the first text, and those of the second with their offsets moved. -/
theorem pieces_append {last : Char} (hlast : ends last = true) (cs ds : List Char) :
    pieces ends (cs ++ last :: ds) =
      pieces ends (cs ++ [last]) ++ (pieces ends ds).map (·.shift (byteLength (cs ++ [last]))) := by
  have h := piecesFrom_append hlast 0 [] 0 cs ds
  rwa [Nat.zero_add] at h

/-! ### What the pieces are -/

/-- A text cut behind every character of a kind: a part ends with such a character and has no other,
but the last part may lack it. -/
inductive IsCut (ends : Char → Bool) : List Char → List (List Char) → Prop
  | done : IsCut ends [] []
  | last {part : List Char} (hpart : ∀ c ∈ part, ends c = false) (hne : part ≠ []) :
      IsCut ends part [part]
  | next {part rest : List Char} {c : Char} {parts : List (List Char)}
      (hpart : ∀ d ∈ part, ends d = false) (hc : ends c = true) (hrest : IsCut ends rest parts) :
      IsCut ends (part ++ c :: rest) ((part ++ [c]) :: parts)

/-- The characters of the pieces of a text. -/
def parts (ends : Char → Bool) (text : List Char) : List (List Char) :=
  (pieces ends text).map (·.chars)

theorem flatten_parts (ends : Char → Bool) (text : List Char) :
    (parts ends text).flatten = text := by
  rw [parts, ← List.flatMap_def, flatMap_chars_pieces]

/-- The characters of the piece that is unfinished go on with those that follow. -/
theorem isCut_piecesFrom {current : List Char} (hcurrent : ∀ c ∈ current, ends c = false)
    (start offset : Nat) (cs : List Char) :
    IsCut ends (current.reverse ++ cs)
      ((piecesFrom ends [] start current offset cs).map (·.chars)) := by
  induction cs generalizing start current offset with
  | nil =>
    rw [List.append_nil]
    cases current with
    | nil => exact .done
    | cons c current =>
      apply IsCut.last
      · intro d hd
        exact hcurrent d (List.mem_reverse.1 hd)
      · simp
  | cons c cs ih =>
    rw [piecesFrom]
    cases hc : ends c with
    | true =>
      simp only [if_true]
      rw [piecesFrom_done [_], List.map_append, List.reverse_singleton, List.map_singleton,
        List.reverse_cons, List.singleton_append]
      have hnone : ∀ d ∈ ([] : List Char), ends d = false := List.forall_mem_nil _
      have hrest := ih hnone (offset + c.utf8Size) (offset + c.utf8Size)
      refine .next ?_ hc hrest
      intro d hd
      exact hcurrent d (List.mem_reverse.1 hd)
    | false =>
      simp only [Bool.false_eq_true, if_false]
      have hgo := ih (List.forall_mem_cons.2 ⟨hc, hcurrent⟩) start (offset + c.utf8Size)
      rwa [List.reverse_cons, List.append_assoc] at hgo

/-- The pieces of a text are those of the cut behind every character of the kind. -/
theorem isCut_parts (ends : Char → Bool) (text : List Char) :
    IsCut ends text (parts ends text) := by
  have hnone : ∀ d ∈ ([] : List Char), ends d = false := List.forall_mem_nil _
  exact isCut_piecesFrom hnone 0 0 text

namespace IsCut

variable {text : List Char} {parts : List (List Char)}

/-- No character of a part ends it, but for the last one. -/
theorem ends_eq_false (h : IsCut ends text parts) {part : List Char} (hpart : part ∈ parts) :
    ∀ c ∈ part.dropLast, ends c = false := by
  induction h with
  | done => exact absurd hpart List.not_mem_nil
  | last hnone _ =>
    obtain rfl := List.mem_singleton.1 hpart
    intro c hc
    exact hnone c (List.dropLast_subset part hc)
  | next hnone _ _ ih =>
    rcases List.mem_cons.1 hpart with rfl | hpart
    · rw [List.dropLast_concat]
      exact hnone
    · exact ih hpart

/-- A part that another follows ends with a character of the kind. -/
theorem pairwise_ended (h : IsCut ends text parts) :
    parts.Pairwise fun part _ => ∃ c ∈ part.getLast?, ends c = true := by
  induction h with
  | done => exact .nil
  | last => exact List.pairwise_singleton _ _
  | next _ hc _ ih =>
    refine .cons (fun _ _ => ?_) ih
    exact ⟨_, List.getLast?_concat, hc⟩

end IsCut

/-- Parts of a text that follow each other, the first of which starts at an offset. -/
def placed (offset : Nat) : List (List Char) → List Piece
  | [] => []
  | part :: parts => ⟨offset, part⟩ :: placed (offset + byteLength part) parts

theorem piecesFrom_eq_placed (start : Nat) (current cs : List Char) :
    piecesFrom ends [] start current (start + byteLength current.reverse) cs =
      placed start
        ((piecesFrom ends [] start current (start + byteLength current.reverse) cs).map
          (·.chars)) := by
  induction cs generalizing start current with
  | nil => cases current <;> rfl
  | cons c cs ih =>
    have hnext : start + byteLength current.reverse + c.utf8Size =
        start + byteLength (c :: current).reverse := by
      simp [Nat.add_assoc]
    rw [piecesFrom]
    simp only [hnext]
    split
    · -- The next piece starts behind this one, with no character yet.
      have hrest := ih (start + byteLength (c :: current).reverse) []
      rw [List.reverse_nil, byteLength_nil, Nat.add_zero] at hrest
      rw [piecesFrom_done [_], List.reverse_singleton, List.singleton_append, List.map_cons,
        placed, ← hrest]
    · exact ih start (c :: current)

/-- Each piece starts where the one before it stops. -/
theorem pieces_eq_placed (ends : Char → Bool) (text : List Char) :
    pieces ends text = placed 0 (parts ends text) :=
  piecesFrom_eq_placed 0 [] text

/-- A character of parts that are joined stands in one of the parts. -/
theorem exists_of_flatten_eq {parts : List (List Char)} {c : Char} {front back : List Char}
    (h : parts.flatten = front ++ c :: back) :
    ∃ earlier left right later, parts = earlier ++ (left ++ c :: right) :: later ∧
      front = earlier.flatten ++ left := by
  rcases List.flatten_eq_append_iff.1 h with ⟨earlier, later, rfl, rfl, hlater⟩ |
    ⟨earlier, left, d, right, later, rfl, rfl, hlater⟩
  · obtain ⟨empty, right, later, rfl, hempty, -⟩ := List.flatten_eq_cons_iff.1 hlater.symm
    refine ⟨earlier ++ empty, [], right, later, by simp, ?_⟩
    rw [List.flatten_append, List.flatten_eq_nil_iff.2 hempty, List.append_nil, List.append_nil]
  · obtain ⟨rfl, -⟩ := List.cons.inj hlater
    exact ⟨earlier, left, right, later, rfl, rfl⟩

/-- A part that follows others starts behind all of them. -/
theorem placed_append (offset : Nat) (earlier later : List (List Char)) :
    placed offset (earlier ++ later) =
      placed offset earlier ++ placed (offset + byteLength earlier.flatten) later := by
  induction earlier generalizing offset with
  | nil => rfl
  | cons part earlier ih =>
    rw [List.cons_append, placed, placed, ih, List.flatten_cons, byteLength_append, Nat.add_assoc,
      List.cons_append]

theorem le_start_of_mem_placed {offset : Nat} {parts : List (List Char)} {p : Piece}
    (h : p ∈ placed offset parts) : offset ≤ p.start := by
  induction parts generalizing offset with
  | nil => exact absurd h List.not_mem_nil
  | cons part parts ih =>
    rw [placed] at h
    rcases List.mem_cons.1 h with rfl | h
    · exact Nat.le_refl offset
    · exact Nat.le_trans (Nat.le_add_right ..) (ih h)

/-! ### Characters of a text and of its pieces -/

/-- Whether a character stands at an offset of a text. -/
def CharAt (text : List Char) (offset : Nat) (c : Char) : Prop :=
  ∃ before after, text = before ++ c :: after ∧ byteLength before = offset

/-- Whether a piece has room for a character at an offset of the text. -/
def Piece.Holds (p : Piece) (offset : Nat) (c : Char) : Prop :=
  p.start ≤ offset ∧ offset + c.utf8Size ≤ p.stop

variable {text : List Char} {p : Piece} {i j : Nat} {c d : Char}

/-- Of two characters the first stops before the second starts. -/
theorem CharAt.add_le (h : CharAt text i c) (h' : CharAt text j d) (hlt : i < j) :
    i + c.utf8Size ≤ j := by
  obtain ⟨before, after, htext, rfl⟩ := h
  obtain ⟨before', after', htext', rfl⟩ := h'
  obtain ⟨between, rfl, hafter⟩ :=
    exists_append_of_byteLength_le (htext.symm.trans htext') (Nat.le_of_lt hlt)
  cases between with
  | nil =>
    rw [List.append_nil] at hlt
    exact absurd hlt (Nat.lt_irrefl _)
  | cons e between =>
    obtain ⟨rfl, -⟩ := List.cons.inj hafter
    rw [byteLength_append, byteLength_cons]
    omega

/-- A character that a slice has room for is one of the slice. -/
theorem Piece.Holds.exists_eq_append (hslice : slice? text p.start p.stop = some p.chars)
    (hc : CharAt text i c) (h : p.Holds i c) :
    ∃ left right, p.chars = left ++ c :: right ∧ p.start + byteLength left = i := by
  obtain ⟨before, after, htext, hstart, -⟩ := slice?_eq_some_iff.1 hslice
  obtain ⟨front, back, htext', rfl⟩ := hc
  obtain ⟨hle, hstop⟩ := h
  rw [htext, List.append_assoc] at htext'
  obtain ⟨left, rfl, hchars⟩ := exists_append_of_byteLength_le htext' (hstart ▸ hle)
  rw [byteLength_append] at hstop
  -- The slice stops behind the character, so it begins with what ends with that character.
  rw [← List.singleton_append, ← List.append_assoc] at hchars
  have hroom : byteLength (left ++ [c]) ≤ byteLength p.chars := by
    rw [Piece.stop] at hstop
    rw [byteLength_append, byteLength_cons, byteLength_nil]
    omega
  obtain ⟨right, hright, -⟩ := exists_append_of_byteLength_le hchars.symm hroom
  refine ⟨left, right, ?_, ?_⟩
  · rw [hright, List.append_assoc, List.singleton_append]
  · rw [byteLength_append, hstart]

/-- A character of a slice stands in the text, where the slice has room for it. -/
theorem charAt_of_eq_append {left right : List Char}
    (hslice : slice? text p.start p.stop = some p.chars) (h : p.chars = left ++ c :: right) :
    CharAt text (p.start + byteLength left) c ∧ p.Holds (p.start + byteLength left) c := by
  obtain ⟨before, after, htext, hstart, -⟩ := slice?_eq_some_iff.1 hslice
  constructor
  · refine ⟨before ++ left, right ++ after, ?_, ?_⟩
    · rw [htext, h]
      simp only [List.append_assoc, List.cons_append]
    · rw [byteLength_append, hstart]
  · refine ⟨Nat.le_add_right .., ?_⟩
    rw [Piece.stop, h, byteLength_append, byteLength_cons]
    omega

/-- Slices of a text that start at one offset and stop at one are the same. -/
theorem Piece.eq_of_slice? {q : Piece} (hp : slice? text p.start p.stop = some p.chars)
    (hq : slice? text q.start q.stop = some q.chars) (hstart : p.start = q.start)
    (hstop : p.stop = q.stop) : p = q := by
  rw [hstart, hstop, hq] at hp
  obtain ⟨start, chars⟩ := p
  obtain rfl : start = q.start := hstart
  obtain rfl : q.chars = chars := Option.some.inj hp
  rfl

/-- The last character of a slice stands in the text and stops where the slice does. -/
theorem exists_charAt_last (hslice : slice? text p.start p.stop = some p.chars)
    (hlast : p.chars.getLast? = some c) :
    ∃ k, CharAt text k c ∧ p.Holds k c ∧ k + c.utf8Size = p.stop := by
  obtain ⟨front, hchars⟩ := List.getLast?_eq_some_iff.1 hlast
  obtain ⟨hat, hholds⟩ := charAt_of_eq_append hslice hchars
  refine ⟨_, hat, hholds, ?_⟩
  rw [Piece.stop, hchars, byteLength_append, byteLength_cons, byteLength_nil]
  omega

/-- Every character of a text stands in one of its pieces. -/
theorem CharAt.exists_mem_pieces (h : CharAt text i c) (ends : Char → Bool) :
    ∃ p ∈ pieces ends text, ∃ left right, p.chars = left ++ c :: right ∧
      p.start + byteLength left = i := by
  obtain ⟨before, after, htext, rfl⟩ := h
  obtain ⟨earlier, left, right, later, hparts, rfl⟩ :=
    exists_of_flatten_eq ((flatten_parts ends text).trans htext)
  refine ⟨⟨byteLength earlier.flatten, left ++ c :: right⟩, ?_, left, right, rfl, ?_⟩
  · rw [pieces_eq_placed, hparts, placed_append, Nat.zero_add]
    exact List.mem_append_right _ List.mem_cons_self
  · rw [byteLength_append]

/-! ### Pieces that lie apart -/

/-- Pieces that come one behind the other. -/
def Apart (ps : List Piece) : Prop :=
  ps.Pairwise fun p q => p.stop ≤ q.start

/-- Parts that follow each other lie apart. -/
theorem apart_placed (offset : Nat) (parts : List (List Char)) : Apart (placed offset parts) := by
  induction parts generalizing offset with
  | nil => exact .nil
  | cons part parts ih => exact .cons (fun _ hq => le_start_of_mem_placed hq) (ih _)

/-- The pieces of a text lie apart. -/
theorem apart_pieces (ends : Char → Bool) (text : List Char) : Apart (pieces ends text) := by
  rw [pieces_eq_placed]
  exact apart_placed 0 (parts ends text)

/-- Whether a piece starts before another. -/
def Piece.Before (p q : Piece) : Prop :=
  p.start < q.start

instance : Std.Irrefl Piece.Before :=
  ⟨fun p => Nat.lt_irrefl p.start⟩

instance : Std.Antisymm Piece.Before :=
  ⟨fun _ _ h h' => absurd h (Nat.lt_asymm h')⟩

theorem Piece.start_lt_stop (hne : p.chars ≠ []) : p.start < p.stop := by
  have hpos : byteLength p.chars ≠ 0 := fun hzero => hne (byteLength_eq_zero.1 hzero)
  rw [Piece.stop]
  omega

/-- Pieces that lie apart and are not empty start one behind the other. -/
theorem Apart.pairwise_before {ps : List Piece} (h : Apart ps) (hne : ∀ p ∈ ps, p.chars ≠ []) :
    ps.Pairwise Piece.Before := by
  refine List.Pairwise.imp_of_mem ?_ h
  intro p q hp _ hle
  show p.start < q.start
  exact Nat.lt_of_lt_of_le (Piece.start_lt_stop (hne p hp)) hle

/-- Two of the pieces that lie apart are one, or one of them stops before the other starts. -/
theorem Apart.cases {ps : List Piece} (h : Apart ps) {q : Piece} (hp : p ∈ ps) (hq : q ∈ ps) :
    p = q ∨ p.stop ≤ q.start ∨ q.stop ≤ p.start := by
  have hsymm : ps.Pairwise fun p q => p.stop ≤ q.start ∨ q.stop ≤ p.start := h.imp .inl
  have : Std.Symm fun p q : Piece => p.stop ≤ q.start ∨ q.stop ≤ p.start := ⟨fun _ _ => Or.symm⟩
  by_cases heq : p = q
  · exact .inl heq
  · exact .inr (hsymm.forall hp hq heq)

/-- Of pieces that lie apart one at most has room for a character. -/
theorem Apart.eq_of_holds {ps : List Piece} (h : Apart ps) {q : Piece} (hp : p ∈ ps) (hq : q ∈ ps)
    (hpc : p.Holds i c) (hqc : q.Holds i c) : p = q := by
  have hpos := c.utf8Size_pos
  obtain ⟨hpstart, hpstop⟩ := hpc
  obtain ⟨hqstart, hqstop⟩ := hqc
  rcases h.cases hp hq with heq | hle | hle
  · exact heq
  · omega
  · omega

end ProseLinter.Text
