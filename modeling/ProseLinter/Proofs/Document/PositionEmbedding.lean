import Mathlib.Data.Prod.Lex
import Mathlib.Order.Hom.Basic
import Mathlib.Order.Interval.Set.Defs
import ProseLinter.Proofs.Document.PositionOrder

/-!
# Positions and boundaries

Positions are compared by their lines first and by their columns second. In this order the
boundaries between the characters of a text are embedded in the positions: no two of them have one
position, and an offset between two boundaries has the position of the first. So a line and a column
lead back to a boundary, by the start of the line and the bytes of its first characters. Only where a
position does not fit, it goes back to before the start of the text.

* `Position.lt_iff_before` : the order of positions.
* `LineIndex.IsLine` : the lines of a text, each with the number of newlines before it;
  `LineIndex.getElem?_lines_eq_some_iff` finds them in the index.
* `LineIndex.offset?` : the way back from a position; `LineIndex.offset?_eq_some_iff` says from
  which positions there is one.
* `LineIndex.position_embeds_boundaries` : the order of the positions of all offsets, and in which
  texts it is kept.
* `LineIndex.longLine_position_goes_back` : a text in which it is not.
-/

namespace ProseLinter

open Text

namespace Text

/-- Behind such a text a line starts: it is empty or ends with a newline. -/
def AtLineStart (before : List Char) : Prop :=
  before = [] ∨ ∃ first, before = first ++ ['\n']

/-- Before such a text a line stops: it is empty or begins with a newline. -/
def AtLineStop (after : List Char) : Prop :=
  after = [] ∨ ∃ rest, after = '\n' :: rest

/-- A text up to its first newline, if there is one. -/
theorem exists_line_append (text : List Char) :
    ∃ line after, text = line ++ after ∧ '\n' ∉ line ∧ AtLineStop after := by
  by_cases hmem : '\n' ∈ text
  · obtain ⟨line, rest, rfl, hline⟩ := List.eq_append_cons_of_mem hmem
    exact ⟨line, _, rfl, hline, .inr ⟨rest, rfl⟩⟩
  · exact ⟨text, [], (List.append_nil text).symm, hmem, .inl rfl⟩

/-- A first line with its newline stands before the start of a line if what follows it does. -/
theorem AtLineStart.append_newline {before : List Char} (h : AtLineStart before)
    (first : List Char) : AtLineStart (first ++ '\n' :: before) := by
  rcases h with rfl | ⟨last, rfl⟩
  · exact .inr ⟨first, rfl⟩
  · refine .inr ⟨first ++ '\n' :: last, ?_⟩
    rw [List.append_assoc, List.cons_append]

end Text

namespace Position

/-- A position as a pair that is compared by the line first. -/
def key (p : Position) : ℕ ×ₗ ℕ :=
  toLex (p.line, p.column)

theorem key_injective : Function.Injective key := by
  rintro ⟨line, column⟩ ⟨line', column'⟩ h
  obtain ⟨rfl, rfl⟩ := Prod.mk.inj (toLex.injective h)
  rfl

/-- Positions in the order in which they are read. -/
instance : LinearOrder Position :=
  LinearOrder.lift' key key_injective

theorem lt_iff_before {p q : Position} : p < q ↔ p.Before q :=
  Prod.Lex.toLex_lt_toLex

/-- The position behind the first part of a line that starts behind the given text. -/
theorem behind_append {before part : List Char} (hbefore : AtLineStart before)
    (hpart : '\n' ∉ part) : behind (before ++ part) = ⟨before.count '\n' + 1, part.length + 1⟩ := by
  have hline : lastLine (before ++ part) = part := by
    rcases hbefore with rfl | ⟨first, rfl⟩
    · exact lastLine_of_not_mem hpart
    · rw [List.append_assoc, List.singleton_append, lastLine_append_newline,
        lastLine_of_not_mem hpart]
  rw [behind, hline, List.count_append, List.count_eq_zero.2 hpart, Nat.add_zero]

end Position

namespace LineIndex

variable {text : List Char} {a b n : Nat} {line : Line} {p : Position}

/-! ### Lines of the index -/

/-- A line of a text, without its newline, and how many lines stand before it. -/
inductive IsLine (text : List Char) (n : Nat) (line : Line) : Prop
  | intro {before after : List Char} (htext : text = before ++ line.chars ++ after)
      (hcount : before.count '\n' = n) (hstart : byteLength before = line.start)
      (hbefore : AtLineStart before) (hchars : '\n' ∉ line.chars) (hafter : AtLineStop after)

/-- Behind each newline and at its start a text has a line. -/
theorem exists_isLine (h : n ≤ text.count '\n') : ∃ line, IsLine text n line := by
  -- One newline at a time: what follows the first one is a text with one newline less.
  induction n generalizing text with
  | zero =>
    obtain ⟨chars, after, htext, hchars, hafter⟩ := exists_line_append text
    exact ⟨⟨0, chars⟩, @IsLine.intro text 0 _ [] after htext rfl rfl (.inl rfl) hchars hafter⟩
  | succ n ih =>
    obtain ⟨first, after, rfl, hfirst, hafter⟩ := exists_line_append text
    rcases hafter with rfl | ⟨rest, rfl⟩
    · rw [List.append_nil, List.count_eq_zero.2 hfirst] at h
      exact absurd h (Nat.not_succ_le_zero n)
    · -- The line is one of those behind the first newline.
      rw [List.count_append, List.count_eq_zero.2 hfirst, List.count_cons_self] at h
      obtain ⟨⟨start, chars⟩, hline⟩ := ih (show n ≤ rest.count '\n' by omega)
      obtain @⟨before, after, rfl, rfl, rfl, hbefore, hchars, hafter⟩ := hline
      refine ⟨⟨byteLength (first ++ '\n' :: before), chars⟩,
        .intro (by simp) ?_ rfl (hbefore.append_newline first) hchars hafter⟩
      rw [List.count_append, List.count_eq_zero.2 hfirst, List.count_cons_self, Nat.zero_add]

/-- The lines of a text around a newline: those up to it, and those of what follows. -/
theorem linesFrom_append (done : List Line) (start : Nat) (current : List Char) (offset : Nat)
    (cs rest : List Char) :
    linesFrom done start current offset (cs ++ '\n' :: rest) =
      linesFrom done start current offset cs ++
        linesFrom [] (offset + byteLength cs + 1) [] (offset + byteLength cs + 1) rest := by
  induction cs generalizing done start current offset with
  | nil =>
    rw [List.nil_append, linesFrom, linesFrom, byteLength_nil, Nat.add_zero]
    simp only [beq_self_eq_true, if_true]
    exact linesFrom_done ..
  | cons c cs ih =>
    have hoffset : offset + byteLength (c :: cs) = offset + c.utf8Size + byteLength cs := by
      rw [byteLength_cons, Nat.add_assoc]
    rw [List.cons_append, linesFrom, linesFrom, hoffset]
    split <;> exact ih ..

/-- The first line goes to the first newline. -/
theorem getElem?_linesFrom_zero (start : Nat) {chars after : List Char} (hchars : '\n' ∉ chars)
    (hafter : AtLineStop after) :
    (linesFrom [] start [] start (chars ++ after))[0]? = some ⟨start, chars⟩ := by
  rcases hafter with rfl | ⟨rest, rfl⟩
  · rw [List.append_nil, linesFrom_of_not_mem hchars]
    rfl
  · rw [linesFrom_append_newline hchars]
    rfl

/-- A line of the text stands in the index at its number. -/
theorem IsLine.getElem?_lines (h : IsLine text n line) : (ofText text).lines[n]? = some line := by
  obtain ⟨start, chars⟩ := line
  obtain @⟨before, after, rfl, rfl, rfl, hbefore, hchars, hafter⟩ := h
  rcases hbefore with rfl | ⟨first, rfl⟩
  · exact getElem?_linesFrom_zero 0 hchars hafter
  · -- As many lines stand before the newline as newlines up to and with it.
    have hcount : (first ++ ['\n']).count '\n' = (linesFrom [] 0 [] 0 first).length := by
      rw [length_linesFrom, List.count_append, List.count_singleton_self, List.length_nil]
      omega
    have hstart : byteLength (first ++ ['\n']) = 0 + byteLength first + 1 := by
      rw [byteLength_append, Nat.zero_add]
      rfl
    have htext : first ++ ['\n'] ++ chars ++ after = first ++ '\n' :: (chars ++ after) := by
      simp only [List.append_assoc, List.cons_append, List.nil_append]
    rw [ofText, htext, hcount, hstart, linesFrom_append,
      List.getElem?_append_right (Nat.le_refl _), Nat.sub_self]
    exact getElem?_linesFrom_zero _ hchars hafter

/-- The index has the lines of the text, each at its number. -/
theorem getElem?_lines_eq_some_iff : (ofText text).lines[n]? = some line ↔ IsLine text n line := by
  constructor
  · intro h
    have hlt : n < (ofText text).lineCount := (List.getElem?_eq_some_iff.1 h).1
    rw [lineCount_ofText] at hlt
    -- The text has a line of this number, and it is the one in the index.
    obtain ⟨line', hline⟩ := exists_isLine (Nat.le_of_lt_succ hlt)
    rw [hline.getElem?_lines] at h
    exact Option.some.inj h ▸ hline
  · exact IsLine.getElem?_lines

/-! ### The way back -/

/-- The offset of a position: the bytes before its line, and those of the characters of the line
before its column; none where the text has no such line or the line no such column. -/
def offset? (index : LineIndex) : Position → Option Nat
  | ⟨line + 1, column + 1⟩ =>
    index.lines[line]?.bind fun l =>
      if column ≤ l.chars.length then some (l.start + byteLength (l.chars.take column)) else none
  | _ => none

theorem offset?_eq_some {index : LineIndex} (h : index.offset? p = some b) :
    ∃ number column line, p = ⟨number + 1, column + 1⟩ ∧ index.lines[number]? = some line ∧
      column ≤ line.chars.length ∧ line.start + byteLength (line.chars.take column) = b := by
  unfold offset? at h
  split at h
  · next number column =>
    obtain ⟨line, hline, hoffset⟩ := Option.bind_eq_some_iff.1 h
    split at hoffset
    · next hle => exact ⟨number, column, line, rfl, hline, hle, Option.some.inj hoffset⟩
    · cases hoffset
  · cases h

/-- The position behind a first part of a text. -/
theorem countedPosition_append (before after : List Char) :
    (ofText (before ++ after)).countedPosition (byteLength before) = Position.behind before := by
  rw [countedPosition_ofText, within_append]

/-- An offset has the position of the boundary that it snaps to. -/
theorem countedPosition_within (text : List Char) (offset : Nat) :
    (ofText text).countedPosition (byteLength (within text offset)) =
      (ofText text).countedPosition offset := by
  obtain ⟨after, hafter⟩ := exists_eq_within_append text offset
  have hposition := countedPosition_append (within text offset) after
  rw [← hafter] at hposition
  rw [hposition, countedPosition_ofText]

/-- A position leads back to an offset exactly if it is the position of a boundary, and then to this
boundary. -/
theorem offset?_eq_some_iff :
    (ofText text).offset? p = some b ↔ IsBoundary text b ∧ (ofText text).countedPosition b = p := by
  constructor
  · intro h
    obtain ⟨number, column, line, rfl, hline, hle, rfl⟩ := offset?_eq_some h
    obtain @⟨before, after, htext, hcount, hstart, hbefore, hchars, -⟩ :=
      getElem?_lines_eq_some_iff.1 hline
    -- The boundary is in the line, behind the characters before the column.
    have hpart : '\n' ∉ line.chars.take column := fun hmem => hchars (List.mem_of_mem_take hmem)
    have hsplit : text =
        before ++ line.chars.take column ++ (line.chars.drop column ++ after) := by
      rw [htext, List.append_assoc, List.append_assoc, ← List.append_assoc (line.chars.take column),
        List.take_append_drop]
    rw [← hstart, ← byteLength_append]
    refine ⟨⟨_, _, hsplit, rfl⟩, ?_⟩
    rw [hsplit, countedPosition_append, Position.behind_append hbefore hpart, hcount,
      List.length_take_of_le hle]
  · rintro ⟨hb, rfl⟩
    obtain ⟨before, part, after, htext, hpart, hbefore, hwithin, hposition⟩ := exists_line text b
    have hlength := byteLength_within_of_isBoundary hb
    rw [hwithin, byteLength_append] at hlength
    -- The line goes on behind the boundary, up to the next newline.
    obtain ⟨more, after, rfl, hmore, hafter⟩ := exists_line_append after
    have hchars : '\n' ∉ part ++ more := by
      rw [List.mem_append, not_or]
      exact ⟨hpart, hmore⟩
    have hline : IsLine text (before.count '\n') ⟨byteLength before, part ++ more⟩ := by
      refine .intro ?_ rfl rfl hbefore hchars hafter
      rw [htext, List.append_assoc, List.append_assoc, List.append_assoc]
    rw [hposition, offset?, hline.getElem?_lines, Option.bind_some, List.take_left, hlength]
    exact if_pos (List.length_append ▸ Nat.le_add_right _ _)

theorem isBoundary_within (text : List Char) (offset : Nat) :
    IsBoundary text (byteLength (within text offset)) :=
  (isGreatest_within text offset).1.1

/-- The position of an offset leads back to the boundary that the offset snaps to. -/
theorem offset?_countedPosition (text : List Char) (offset : Nat) :
    (ofText text).offset? ((ofText text).countedPosition offset) =
      some (byteLength (within text offset)) :=
  offset?_eq_some_iff.2 ⟨isBoundary_within text offset, countedPosition_within text offset⟩

/-! ### The order of positions -/

/-- Offsets have one position exactly if they snap to one boundary. -/
theorem countedPosition_eq_iff : (ofText text).countedPosition a = (ofText text).countedPosition b ↔
    byteLength (within text a) = byteLength (within text b) := by
  constructor
  · intro h
    -- One position cannot lead back to two boundaries.
    have hback := offset?_countedPosition text a
    rw [h, offset?_countedPosition] at hback
    exact (Option.some.inj hback).symm
  · intro h
    rw [← countedPosition_within text a, h, countedPosition_within]

/-- Positions do not go back. -/
theorem monotone_countedPosition (text : List Char) : Monotone (ofText text).countedPosition := by
  intro a b hle
  obtain ⟨more, hmore⟩ := exists_within_eq_append text hle
  rw [countedPosition_ofText, countedPosition_ofText, hmore]
  by_cases hne : more = []
  · rw [hne, List.append_nil]
  · exact le_of_lt (Position.lt_iff_before.2 (Position.before_behind_append _ hne))

/-- For the offsets of 32 bits a later one never has an earlier position. Two of them have one position
exactly if they snap to one boundary: snapping back does not fail, and the position of an offset
leads back to where it snaps. So the positions are an embedding of the boundaries, which are what
positions lead back to. -/
structure EmbedsBoundaries (text : List Char) : Prop where
  monotone : MonotoneOn (ofText text).position (Set.Iio Span.limit)
  eq_iff : ∀ a < Span.limit, ∀ b < Span.limit,
    ((ofText text).position a = (ofText text).position b ↔
      snapBack? text (min a (byteLength text)) = snapBack? text (min b (byteLength text)))
  leads_back : ∀ offset < Span.limit, ∃ boundary,
    snapBack? text (min offset (byteLength text)) = some boundary ∧ IsBoundary text boundary ∧
      (ofText text).offset? ((ofText text).position offset) = some boundary
  exists_embedding : ∃ embedding : {b // IsBoundary text b ∧ b < Span.limit} ↪o Position,
    ∀ b, embedding b = (ofText text).position b
  offset?_eq_some_iff : ∀ p, ∀ b < Span.limit,
    ((ofText text).offset? p = some b ↔ IsBoundary text b ∧ (ofText text).position b = p)

/-- Where all positions fit, they are an embedding. -/
theorem embedsBoundaries_of_not_overflows (h : ¬ Overflows text (Span.limit - 1)) :
    EmbedsBoundaries text := by
  have hcounted {offset : Nat} (hoffset : offset < Span.limit) :
      (ofText text).position offset = (ofText text).countedPosition offset := by
    refine position_eq_counted hoffset fun hoverflows => h ?_
    -- No other offset than the greatest one overflows.
    have hlast : offset + 1 = Span.limit := by
      obtain ⟨hlast, -, -, -, -⟩ := hoverflows
      exact hlast
    rwa [← hlast, Nat.add_sub_cancel]
  have hsnap (offset : Nat) : snapBack? text (min offset (byteLength text)) =
      some (byteLength (within text offset)) :=
    snapBack?_of_isGreatest (isGreatest_within text offset)
  constructor
  case monotone =>
    intro a ha b hb hle
    rw [hcounted ha, hcounted hb]
    exact monotone_countedPosition text hle
  case eq_iff =>
    intro a ha b hb
    rw [hcounted ha, hcounted hb, hsnap, hsnap, Option.some.injEq]
    exact countedPosition_eq_iff
  case leads_back =>
    intro offset hoffset
    rw [hcounted hoffset]
    exact ⟨_, hsnap offset, isBoundary_within text offset, offset?_countedPosition text offset⟩
  case exists_embedding =>
    have hstrict : StrictMono fun b : {b // IsBoundary text b ∧ b < Span.limit} =>
        (ofText text).position b := by
      intro a b hlt
      simp only [hcounted a.2.2, hcounted b.2.2]
      exact Position.lt_iff_before.2 (countedPosition_before hlt b.2.1)
    exact ⟨OrderEmbedding.ofStrictMono _ hstrict, fun _ => rfl⟩
  case offset?_eq_some_iff =>
    intro p b hb
    rw [hcounted hb]
    exact offset?_eq_some_iff

/-- A position that does not fit comes before that of the start of the text. -/
theorem lt_position_of_overflows {offset : Nat} (h : Overflows text offset) :
    (ofText text).position offset < (ofText text).position 0 := by
  have hstart : ¬ Overflows text 0 := by
    rintro ⟨hlast, -, -, -, -⟩
    exact absurd hlast (by decide)
  exact Position.lt_iff_before.2 (before_of_overflows h (by decide) hstart)

/-- The positions are an embedding of the boundaries exactly unless the position of the greatest
offset does not fit: the characters before it have one byte each, and they make up one line or are
all newlines. -/
theorem position_embeds_boundaries (text : List Char) :
    EmbedsBoundaries text ↔ ¬ Overflows text (Span.limit - 1) := by
  constructor
  · intro h hoverflows
    have hstart : 0 ∈ Set.Iio Span.limit := show 0 < Span.limit by decide
    have hlast : Span.limit - 1 ∈ Set.Iio Span.limit :=
      show Span.limit - 1 < Span.limit by decide
    have hle := h.monotone hstart hlast (Nat.zero_le _)
    exact not_lt_of_ge hle (lt_position_of_overflows hoverflows)
  · exact embedsBoundaries_of_not_overflows

/-- Behind a line that is too long the position goes back to before the start of the text. -/
theorem longLine_position_goes_back :
    0 ≤ Span.limit - 1 ∧ Span.limit - 1 < Span.limit ∧
      ¬ (ofText longLine).position 0 ≤ (ofText longLine).position (Span.limit - 1) :=
  ⟨Nat.zero_le _, by decide, not_le_of_gt (lt_position_of_overflows overflows_longLine)⟩

/-- The second byte of the first character of the second line has the position of its first byte,
and this position leads back to the first byte. -/
example :
    let index := ofText "é\né".toList
    index.position 4 = ⟨2, 1⟩ ∧ index.offset? ⟨2, 1⟩ = some 3 ∧ index.offset? ⟨2, 3⟩ = none := by
  decide

end LineIndex

end ProseLinter
