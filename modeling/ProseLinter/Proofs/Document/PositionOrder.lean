import ProseLinter.Proofs.Document.LineSearch

/-!
# The order of positions

Positions are read line by line, and in a line column by column. Further in the text they come later
in this order: a character that ends a line moves the position to the next one, and any other moves
it on in its line.

* `Position.Before` : the order in which positions are read.
* `Position.before_behind_append` : more characters move the position behind them on.
* `LineIndex.countedPosition_before` : a boundary between characters comes later than every offset
  before it, as positions are counted.
* `LineIndex.before_of_overflows` : a position that does not fit comes before all that do.
-/

namespace ProseLinter

namespace Text

variable {cs ds text : List Char} {a b : Nat}

/-- Characters without a newline are put to the last line. -/
theorem lastLine_append_of_not_mem (cs : List Char) (h : '\n' ∉ ds) :
    lastLine (cs ++ ds) = lastLine cs ++ ds := by
  obtain ⟨before, hbefore, hline, hnewline⟩ := exists_before_lastLine cs
  have hnone : '\n' ∉ lastLine cs ++ ds := by
    rw [List.mem_append, not_or]
    exact ⟨hline, h⟩
  rw [hbefore, List.append_assoc, ← hbefore]
  rcases hnewline with rfl | ⟨first, rfl⟩
  · exact lastLine_of_not_mem hnone
  · rw [List.append_assoc, List.singleton_append, lastLine_append_newline,
      lastLine_of_not_mem hnone]

/-- Within more bytes a text has the same characters and maybe some more. -/
theorem exists_within_eq_append (text : List Char) (h : a ≤ b) :
    ∃ more, within text b = within text a ++ more := by
  induction text generalizing a b with
  | nil => exact ⟨[], rfl⟩
  | cons c text ih =>
    rw [within, within]
    by_cases hc : c.utf8Size ≤ a
    · obtain ⟨more, hmore⟩ := ih (Nat.sub_le_sub_right h c.utf8Size)
      rw [if_pos hc, if_pos (Nat.le_trans hc h), hmore]
      exact ⟨more, rfl⟩
    · rw [if_neg hc]
      exact ⟨_, (List.nil_append _).symm⟩

/-- The characters before a boundary are all within its bytes. -/
theorem byteLength_within_of_isBoundary (h : IsBoundary text b) :
    byteLength (within text b) = b := by
  have hle : b ≤ byteLength text := by
    obtain ⟨before, after, rfl, rfl⟩ := h
    rw [byteLength_append]
    exact Nat.le_add_right _ _
  have hgreatest := (isGreatest_within text b).2 ⟨h, Nat.le_min.2 ⟨Nat.le_refl b, hle⟩⟩
  exact Nat.le_antisymm (byteLength_within_le text b) hgreatest

/-- A slice begins at a boundary. -/
theorem isBoundary_of_slice? {start stop : Nat} (h : slice? text start stop = some cs) :
    IsBoundary text start := by
  obtain ⟨before, after, htext, hstart, -⟩ := slice?_eq_some_iff.1 h
  exact ⟨before, cs ++ after, by rw [htext, List.append_assoc], hstart⟩

end Text

open Text

namespace Position

/-- Whether a position comes before another: on an earlier line, or further left in the same. -/
def Before (p q : Position) : Prop :=
  p.line < q.line ∨ p.line = q.line ∧ p.column < q.column

theorem Before.asymm {p q : Position} (h : p.Before q) : ¬ q.Before p := by
  unfold Before at h ⊢
  omega

/-- More characters move the position behind them on. -/
theorem before_behind_append (before : List Char) {more : List Char} (hne : more ≠ []) :
    (behind before).Before (behind (before ++ more)) := by
  by_cases hnewline : '\n' ∈ more
  · left
    have hpos := List.count_pos_iff.2 hnewline
    simp only [behind, List.count_append]
    omega
  · right
    have hlength := List.length_pos_iff.2 hne
    simp only [behind, List.count_append, List.count_eq_zero.2 hnewline, Nat.add_zero,
      lastLine_append_of_not_mem before hnewline, List.length_append, true_and]
    omega

end Position

/-- A boundary between characters comes later than every offset before it. -/
theorem LineIndex.countedPosition_before {text : List Char} {a b : Nat} (hlt : a < b)
    (hb : IsBoundary text b) :
    ((ofText text).countedPosition a).Before ((ofText text).countedPosition b) := by
  obtain ⟨more, hmore⟩ := exists_within_eq_append text (Nat.le_of_lt hlt)
  have hne : more ≠ [] := by
    rintro rfl
    -- Then the characters before the boundary would all be within the fewer bytes.
    rw [List.append_nil] at hmore
    have hle := byteLength_within_le text a
    rw [← hmore, byteLength_within_of_isBoundary hb] at hle
    omega
  rw [countedPosition_ofText, countedPosition_ofText, hmore]
  exact Position.before_behind_append _ hne

/-- A position that does not fit comes before all that do. -/
theorem LineIndex.before_of_overflows {text : List Char} {a b : Nat} (hb : Overflows text b)
    (hlimit : a < Span.limit) (ha : ¬ Overflows text a) :
    ((ofText text).position b).Before ((ofText text).position a) := by
  rw [position_eq_counted hlimit ha, countedPosition_ofText, Position.behind]
  rcases position_of_overflows hb with hcolumn | hline
  · -- The other column is not zero.
    rw [hcolumn]
    rcases Nat.eq_zero_or_pos ((within text a).count '\n') with hzero | hpos
    · right
      rw [hzero]
      exact ⟨rfl, Nat.succ_pos _⟩
    · left
      exact Nat.succ_lt_succ hpos
  · rw [hline]
    exact .inl (Nat.succ_pos _)

end ProseLinter
