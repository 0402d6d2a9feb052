import ProseLinter.Proofs.Document.Position

/-!
# Positions in 32 bits

The line and the column of a position have 32 bits, and so has the offset. For the greatest offset
this may be too few: when the characters before it have one byte each and make up one line, its
column would be the first number that has more bits, and when they are all newlines its line would
be. For every other offset line and column are as they are counted.

* `Position.Fits` : a position with a line and a column of 32 bits.
* `Text.Overflows` : an offset for which a number does not have 32 bits.
* `LineIndex.fits_countedPosition_iff` : the positions of all other offsets fit.
* `LineIndex.position_of_overflows` : a number of a position that does not fit becomes zero.
* `LineIndex.position_append_newline` : positions in two texts one after the other.
-/

namespace ProseLinter

open Text

/-! ### Numbers of 32 bits -/

/-- Line and column have 32 bits. -/
def Position.Fits (p : Position) : Prop :=
  p.line < Span.limit ∧ p.column < Span.limit

instance (p : Position) : Decidable p.Fits :=
  inferInstanceAs (Decidable (_ ∧ _))

theorem Position.wrapped_eq_self_iff {p : Position} : p.wrapped = p ↔ p.Fits := by
  have hlimit : Span.limit ≠ 0 := by decide
  obtain ⟨line, column⟩ := p
  rw [wrapped, Position.mk.injEq, Nat.mod_eq_iff_lt hlimit, Nat.mod_eq_iff_lt hlimit]
  rfl

/-- The number after another one, of which the lowest 32 bits count; none if it has more. -/
def Span.next? (n : Nat) : Option Nat :=
  if n % limit + 1 < limit then some (n % limit + 1) else none

theorem Span.next?_of_lt {n : Nat} (h : n < limit) :
    next? n = if n + 1 < limit then some (n + 1) else none := by
  rw [next?, Nat.mod_eq_of_lt h]

/-- The offset is the greatest one, and what stands before it are characters of one byte that make
up one line, or newlines only. -/
inductive Text.Overflows (text : List Char) (offset : Nat) : Prop
  | intro {before after : List Char} (hlast : offset + 1 = Span.limit)
      (htext : text = before ++ after) (hlength : before.length = offset)
      (hbytes : byteLength before = offset) (hchars : '\n' ∉ before ∨ ∀ c ∈ before, c = '\n')

/-- In a text that is not too large only the end may overflow. -/
theorem Text.not_overflows_of_lt {text : List Char} {offset : Nat}
    (hlength : byteLength text < Span.limit) (h : offset < byteLength text) :
    ¬ Overflows text offset := by
  rintro ⟨hlast, -, -, -, -⟩
  omega

namespace LineIndex

variable {text : List Char} {offset : Nat}

/-- Behind one line the column does not fit, and behind newlines the line does not. -/
theorem countedPosition_of_overflows (h : Overflows text offset) :
    (ofText text).countedPosition offset = ⟨1, Span.limit⟩ ∨
      (ofText text).countedPosition offset = ⟨Span.limit, 1⟩ := by
  obtain @⟨before, after, hlast, rfl, hlength, rfl, hchars⟩ := h
  rw [countedPosition_ofText, within_append, Position.behind]
  rcases hchars with hline | hnewlines
  · left
    rw [List.count_eq_zero.2 hline, lastLine_of_not_mem hline, hlength, hlast]
  · right
    have hcount : before.count '\n' = before.length :=
      List.count_eq_length.2 fun c hc => (hnewlines c hc).symm
    rw [hcount, hlength, hlast, lastLine_of_newlines hnewlines]
    rfl

/-- An offset has a position that fits unless it is the greatest one and nothing but characters of
one byte, in one line or all newlines, stands before it. -/
theorem fits_countedPosition_iff (hoffset : offset < Span.limit) :
    ((ofText text).countedPosition offset).Fits ↔ ¬ Overflows text offset := by
  constructor
  · rintro ⟨hline, hcolumn⟩ hoverflows
    rcases countedPosition_of_overflows hoverflows with h | h
    · rw [h] at hcolumn
      exact Nat.lt_irrefl _ hcolumn
    · rw [h] at hline
      exact Nat.lt_irrefl _ hline
  · intro hnot
    obtain ⟨after, hafter⟩ := exists_eq_within_append text offset
    obtain ⟨first, hfirst, hlast, -⟩ := exists_before_lastLine (within text offset)
    have hbytes := byteLength_within_le text offset
    have hlength := length_le_byteLength (within text offset)
    have hcount : (within text offset).count '\n' ≤ (within text offset).length :=
      List.count_le_length
    have hsplit := congrArg List.length hfirst
    rw [List.length_append] at hsplit
    rw [countedPosition_ofText]
    constructor
    · -- As many newlines as bytes leave room for nothing else.
      apply Nat.lt_of_not_le
      intro hline
      change Span.limit ≤ (within text offset).count '\n' + 1 at hline
      have hall : (within text offset).count '\n' = (within text offset).length := by omega
      exact hnot (.intro (by omega) hafter (by omega) (by omega)
        (.inr fun c hc => (List.count_eq_length.1 hall c hc).symm))
    · -- So long a last line has nothing before it.
      apply Nat.lt_of_not_le
      intro hcolumn
      change Span.limit ≤ (lastLine (within text offset)).length + 1 at hcolumn
      obtain rfl : first = [] := List.eq_nil_of_length_eq_zero (by omega)
      rw [List.nil_append] at hfirst
      exact hnot (.intro (by omega) hafter (by omega) (by omega) (.inl (hfirst ▸ hlast)))

/-- Where a position fits, it is as it is counted. -/
theorem position_eq_counted (hoffset : offset < Span.limit) (h : ¬ Overflows text offset) :
    (ofText text).position offset = (ofText text).countedPosition offset :=
  Position.wrapped_eq_self_iff.2 ((fits_countedPosition_iff hoffset).2 h)

/-- Where it does not fit, the column is zero, or the line is. -/
theorem position_of_overflows (h : Overflows text offset) :
    (ofText text).position offset = ⟨1, 0⟩ ∨ (ofText text).position offset = ⟨0, 1⟩ := by
  have hone : 1 % Span.limit = 1 := by decide
  rw [position]
  rcases countedPosition_of_overflows h with hcounted | hcounted
  · left
    rw [hcounted, Position.wrapped, Nat.mod_self, hone]
  · right
    rw [hcounted, Position.wrapped, Nat.mod_self, hone]

/-- Behind a text and a newline the lines are counted on, and the columns are the same. Where both
are not too large, and the second is not of newlines only, all positions in them fit. -/
theorem position_append_newline {rest : List Char}
    (hlength : byteLength (text ++ '\n' :: rest) < Span.limit) (hchar : ∃ c ∈ rest, c ≠ '\n')
    (hoffset : offset ≤ byteLength rest) :
    (ofText (text ++ '\n' :: rest)).position (offset + byteLength (text ++ ['\n'])) =
      ⟨((ofText rest).position offset).line + (text ++ ['\n']).count '\n',
        ((ofText rest).position offset).column⟩ := by
  have hnewline : ('\n' : Char).utf8Size = 1 := rfl
  have hbytes : byteLength (text ++ '\n' :: rest) = byteLength rest + byteLength (text ++ ['\n']) := by
    simp only [byteLength_append, byteLength_cons, byteLength_nil]
    omega
  have hpos : 0 < byteLength (text ++ ['\n']) := by
    rw [byteLength_append, byteLength_cons]
    omega
  have hrest : ¬ Overflows rest offset := by
    rintro ⟨hlast, -, -, -, -⟩
    omega
  -- What overflows at the end of the text is all of it, and it has a newline and another character.
  have hwhole : ¬ Overflows (text ++ '\n' :: rest) (offset + byteLength (text ++ ['\n'])) := by
    rintro @⟨before, after, hlast, htext, -, hbefore, hchars⟩
    have hsplit := congrArg byteLength htext
    rw [byteLength_append before] at hsplit
    obtain rfl : after = [] := byteLength_eq_zero.1 (by omega)
    rw [List.append_nil] at htext
    rw [← htext] at hchars
    rcases hchars with hline | hnewlines
    · exact hline (List.mem_append_right text List.mem_cons_self)
    · obtain ⟨c, hc, hne⟩ := hchar
      exact hne (hnewlines c (List.mem_append_right text (List.mem_cons_of_mem _ hc)))
  rw [position_eq_counted (by omega) hwhole, position_eq_counted (by omega) hrest,
    countedPosition_append_newline]

/-! ### A line that is too long -/

/-- A line of so many letters that the column behind it does not fit. -/
def longLine : List Char :=
  List.replicate (Span.limit - 1) 'a'

theorem byteLength_longLine : byteLength longLine = Span.limit - 1 := by
  rw [longLine, byteLength_replicate]
  exact Nat.mul_one _

theorem not_mem_longLine : '\n' ∉ longLine := by
  intro h
  exact absurd (List.eq_of_mem_replicate h) (by decide)

theorem overflows_longLine : Overflows longLine (Span.limit - 1) :=
  .intro (by decide) (List.append_nil _).symm List.length_replicate byteLength_longLine
    (.inl not_mem_longLine)

/-- The column behind it is zero. -/
theorem position_longLine : (ofText longLine).position (Span.limit - 1) = ⟨1, 0⟩ := by
  have hwithin : within longLine (Span.limit - 1) = longLine := by
    have happend := within_append longLine []
    rwa [List.append_nil, byteLength_longLine] at happend
  have hlength : longLine.length = Span.limit - 1 := List.length_replicate
  rw [position, countedPosition_ofText, hwithin, Position.behind,
    List.count_eq_zero.2 not_mem_longLine, lastLine_of_not_mem not_mem_longLine, hlength]
  decide

end LineIndex

end ProseLinter
