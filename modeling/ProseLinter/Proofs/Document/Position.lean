import ProseLinter.Document.Span
import ProseLinter.Proofs.Text.Slice

/-!
# Positions by counting

The position of a byte offset depends only on the characters that end at or before it: the line
counts their newlines, and the column counts the characters behind the last one.

* `LineIndex.countedPosition_ofText` : the position of any offset, also one past the end of the text
  or inside a character.
* `LineIndex.exists_slice?_of_countedPosition` : the column counts the characters of a slice of the
  text.
* `LineIndex.position_append_of_le` and `LineIndex.countedPosition_append_newline` : positions in two
  texts one after the other.
-/

namespace ProseLinter

namespace Text

variable {cs ds : List Char} {bytes : Nat}

/-- The characters that end within the first so many bytes of a text. -/
def within : List Char → Nat → List Char
  | [], _ => []
  | c :: cs, bytes => if c.utf8Size ≤ bytes then c :: within cs (bytes - c.utf8Size) else []

theorem exists_eq_within_append (cs : List Char) (bytes : Nat) :
    ∃ after, cs = within cs bytes ++ after := by
  induction cs generalizing bytes with
  | nil => exact ⟨[], rfl⟩
  | cons c cs ih =>
    rw [within]
    split
    · obtain ⟨after, hafter⟩ := ih (bytes - c.utf8Size)
      exact ⟨after, by rw [List.cons_append, ← hafter]⟩
    · exact ⟨c :: cs, rfl⟩

/-- Those characters have no more bytes than that. -/
theorem byteLength_within_le (cs : List Char) (bytes : Nat) :
    byteLength (within cs bytes) ≤ bytes := by
  induction cs generalizing bytes with
  | nil => exact Nat.zero_le bytes
  | cons c cs ih =>
    rw [within]
    split
    · have := ih (bytes - c.utf8Size)
      rw [byteLength_cons]
      omega
    · exact Nat.zero_le bytes

theorem byteLength_within_le_byteLength (cs : List Char) (bytes : Nat) :
    byteLength (within cs bytes) ≤ byteLength cs := by
  obtain ⟨after, hafter⟩ := exists_eq_within_append cs bytes
  have hlength := congrArg byteLength hafter
  rw [byteLength_append] at hlength
  omega

/-- A text has at least as many bytes as characters. -/
theorem length_le_byteLength (cs : List Char) : cs.length ≤ byteLength cs := by
  induction cs with
  | nil => exact Nat.le_refl 0
  | cons c cs ih =>
    have := c.utf8Size_pos
    rw [List.length_cons, byteLength_cons]
    omega

theorem within_append_of_le (h : bytes ≤ byteLength cs) (ds : List Char) :
    within (cs ++ ds) bytes = within cs bytes := by
  induction cs generalizing bytes with
  | nil =>
    obtain rfl : bytes = 0 := Nat.le_zero.1 h
    cases ds with
    | nil => rfl
    | cons d ds => exact if_neg (Nat.not_le.2 d.utf8Size_pos)
  | cons c cs ih =>
    rw [byteLength_cons] at h
    rw [List.cons_append, within, within, ih (by omega)]

theorem within_append_add (cs ds : List Char) (bytes : Nat) :
    within (cs ++ ds) (byteLength cs + bytes) = cs ++ within ds bytes := by
  induction cs with
  | nil => rw [byteLength_nil, Nat.zero_add]; rfl
  | cons c cs ih =>
    have hrest : byteLength (c :: cs) + bytes - c.utf8Size = byteLength cs + bytes := by
      rw [byteLength_cons]
      omega
    rw [List.cons_append, within, if_pos (by rw [byteLength_cons]; omega), hrest, ih]
    rfl

/-- The characters within the bytes of a first part are that part. -/
theorem within_append (cs ds : List Char) : within (cs ++ ds) (byteLength cs) = cs := by
  have hnone : within ds 0 = [] :=
    byteLength_eq_zero.1 (Nat.le_zero.1 (byteLength_within_le ds 0))
  have happend := within_append_add cs ds 0
  rwa [Nat.add_zero, hnone, List.append_nil] at happend

theorem within_append_newline_add (line rest : List Char) (bytes : Nat) :
    within (line ++ '\n' :: rest) (byteLength line + 1 + bytes) =
      line ++ '\n' :: within rest bytes := by
  have hbytes : byteLength (line ++ ['\n']) = byteLength line + 1 := byteLength_append ..
  have happend := within_append_add (line ++ ['\n']) rest bytes
  rw [hbytes] at happend
  simpa only [List.append_assoc, List.singleton_append] using happend

/-- The characters behind the last newline. -/
def lastLine (cs : List Char) : List Char :=
  cs.foldl (fun line c => if c == '\n' then [] else line ++ [c]) []

/-- What stands before a newline does not belong to the last line. -/
theorem lastLine_append_newline (cs ds : List Char) :
    lastLine (cs ++ '\n' :: ds) = lastLine ds := by
  rw [lastLine, List.foldl_append, List.foldl_cons]
  rfl

theorem lastLine_of_not_mem (h : '\n' ∉ cs) : lastLine cs = cs := by
  have hfold (line : List Char) :
      cs.foldl (fun line c => if c == '\n' then [] else line ++ [c]) line = line ++ cs := by
    induction cs generalizing line with
    | nil => simp
    | cons c cs ih =>
      rw [List.mem_cons, not_or] at h
      have hc : (c == '\n') = false := by simpa using Ne.symm h.1
      rw [List.foldl_cons, hc, ih h.2]
      simp
  exact hfold []

/-- The last line is what stands behind the last newline, or the whole text. -/
theorem exists_before_lastLine (cs : List Char) :
    ∃ before, cs = before ++ lastLine cs ∧ '\n' ∉ lastLine cs ∧
      (before = [] ∨ ∃ first, before = first ++ ['\n']) := by
  -- The last newline is the first one from behind.
  by_cases h : '\n' ∈ cs.reverse
  · obtain ⟨after, before, hcs, hafter⟩ := List.eq_append_cons_of_mem h
    have hcs : cs = before.reverse ++ '\n' :: after.reverse := by
      rw [← List.reverse_reverse cs, hcs]
      simp
    have hlast : '\n' ∉ after.reverse := by simpa using hafter
    rw [hcs, lastLine_append_newline, lastLine_of_not_mem hlast]
    exact ⟨before.reverse ++ ['\n'], by simp, hlast, .inr ⟨before.reverse, rfl⟩⟩
  · have hnone : '\n' ∉ cs := by simpa using h
    rw [lastLine_of_not_mem hnone]
    exact ⟨[], rfl, hnone, .inl rfl⟩

/-- Behind newlines alone the last line is empty. -/
theorem lastLine_of_newlines (h : ∀ c ∈ cs, c = '\n') : lastLine cs = [] := by
  obtain ⟨before, hbefore, hline, -⟩ := exists_before_lastLine cs
  rw [List.eq_nil_iff_forall_not_mem]
  intro c hc
  have hmem : c ∈ cs := by
    rw [hbefore]
    exact List.mem_append_right before hc
  exact hline (h c hmem ▸ hc)

/-- The last line is what the text ends with. -/
theorem exists_eq_append_lastLine (cs : List Char) : ∃ before, cs = before ++ lastLine cs := by
  obtain ⟨before, hbefore, -⟩ := exists_before_lastLine cs
  exact ⟨before, hbefore⟩

end Text

open Text

/-- The position behind the first characters of a text. -/
def Position.behind (before : List Char) : Position :=
  ⟨before.count '\n' + 1, (lastLine before).length + 1⟩

/-- A line moves the positions behind it. -/
theorem Position.behind_append_newline (line rest : List Char) :
    Position.behind (line ++ '\n' :: rest) =
      ⟨line.count '\n' + 1 + (Position.behind rest).line, (Position.behind rest).column⟩ := by
  rw [behind, lastLine_append_newline, List.count_append, List.count_cons_self, behind]
  simp only [Position.mk.injEq, and_true]
  omega

namespace LineIndex

variable {text line rest : List Char}

theorem charsWithin_eq (count bytes : Nat) (cs : List Char) :
    charsWithin count bytes cs = count + (within cs bytes).length := by
  induction cs generalizing count bytes with
  | nil => rfl
  | cons c cs ih =>
    rw [charsWithin, within]
    split
    · rw [ih, List.length_cons]
      omega
    · rfl

/-- The lines before come first. -/
theorem linesFrom_done (done : List Line) (start : Nat) (current : List Char) (offset : Nat)
    (cs : List Char) :
    linesFrom done start current offset cs =
      done.reverse ++ linesFrom [] start current offset cs := by
  induction cs generalizing done start current offset with
  | nil => simp [linesFrom]
  | cons c cs ih =>
    rw [linesFrom, linesFrom]
    split
    · rw [ih, ih [_]]
      simp
    · exact ih ..

/-- A text without a newline is one line. -/
theorem linesFrom_of_not_mem (h : '\n' ∉ line) (start : Nat) (current : List Char) (offset : Nat) :
    linesFrom [] start current offset line = [⟨start, current.reverse ++ line⟩] := by
  induction line generalizing current offset with
  | nil => simp [linesFrom]
  | cons c line ih =>
    rw [List.mem_cons, not_or] at h
    have hc : (c == '\n') = false := by simpa using Ne.symm h.1
    rw [linesFrom]
    simp only [hc, Bool.false_eq_true, if_false]
    rw [ih h.2]
    simp

/-- The first line of a text ends with its first newline. -/
theorem linesFrom_append_newline (h : '\n' ∉ line) (start : Nat) (current : List Char)
    (offset : Nat) (rest : List Char) :
    linesFrom [] start current offset (line ++ '\n' :: rest) =
      ⟨start, current.reverse ++ line⟩ ::
        linesFrom [] (offset + byteLength line + 1) [] (offset + byteLength line + 1) rest := by
  induction line generalizing current offset with
  | nil =>
    rw [List.nil_append, linesFrom]
    simp only [beq_self_eq_true, if_true]
    rw [linesFrom_done [_]]
    simp
    rfl
  | cons c line ih =>
    rw [List.mem_cons, not_or] at h
    have hc : (c == '\n') = false := by simpa using Ne.symm h.1
    rw [List.cons_append, linesFrom]
    simp only [hc, Bool.false_eq_true, if_false]
    rw [ih h.2, byteLength_cons, Nat.add_assoc offset]
    simp

/-- There is a first line, and it starts where the text does. -/
theorem exists_linesFrom_eq_cons (start : Nat) (text : List Char) :
    ∃ chars others, linesFrom [] start [] start text = ⟨start, chars⟩ :: others := by
  by_cases h : '\n' ∈ text
  · obtain ⟨line, rest, rfl, hline⟩ := List.eq_append_cons_of_mem h
    exact ⟨_, _, linesFrom_append_newline hline start [] start rest⟩
  · exact ⟨_, _, linesFrom_of_not_mem h start [] start⟩

/-- An offset in the first line. -/
theorem countedPosition_of_lt {first second : Line} {others : List Line} {offset : Nat}
    (hfirst : first.start ≤ offset) (hsecond : offset < second.start) :
    (⟨first :: second :: others⟩ : LineIndex).countedPosition offset =
      ⟨1, charsWithin 1 (offset - first.start) first.chars⟩ := by
  simp [countedPosition, hfirst, Nat.not_le.2 hsecond]

/-- An offset behind the first line. -/
theorem countedPosition_of_le {first second : Line} {others : List Line} {offset : Nat}
    (hfirst : first.start ≤ offset) (hsecond : second.start ≤ offset) :
    (⟨first :: second :: others⟩ : LineIndex).countedPosition offset =
      ⟨1 + ((⟨second :: others⟩ : LineIndex).countedPosition offset).line,
        ((⟨second :: others⟩ : LineIndex).countedPosition offset).column⟩ := by
  obtain ⟨last, hlast⟩ := Option.isSome_iff_exists.1
    (List.getLast?_isSome.2 (List.cons_ne_nil second (others.takeWhile (·.start ≤ offset))))
  have hsecond' : (second :: others).takeWhile (·.start ≤ offset) =
      second :: others.takeWhile (·.start ≤ offset) :=
    List.takeWhile_cons_of_pos (by simpa using hsecond)
  have hfirst' : (first :: second :: others).takeWhile (·.start ≤ offset) =
      first :: second :: others.takeWhile (·.start ≤ offset) := by
    rw [List.takeWhile_cons_of_pos (by simpa using hfirst), hsecond']
  simp only [countedPosition, hfirst', hsecond', List.getLast?_cons_cons, hlast, List.length_cons]
  rw [Nat.add_comm 1]

/-- In a text without a newline the column counts all characters that end at or before an offset. -/
theorem charsWithin_eq_behind (h : '\n' ∉ line) (bytes : Nat) :
    (⟨1, charsWithin 1 bytes line⟩ : Position) = Position.behind (within line bytes) := by
  obtain ⟨after, hafter⟩ := exists_eq_within_append line bytes
  have hnone : '\n' ∉ within line bytes := fun hmem =>
    h (by rw [hafter]; exact List.mem_append_left after hmem)
  rw [Position.behind, lastLine_of_not_mem hnone, List.count_eq_zero.2 hnone, charsWithin_eq,
    Nat.zero_add, Nat.add_comm 1]

/-- The position of an offset in a text that starts at an offset. -/
theorem countedPosition_linesFrom {start offset : Nat} (h : start ≤ offset) (text : List Char) :
    (⟨linesFrom [] start [] start text⟩ : LineIndex).countedPosition offset =
      Position.behind (within text (offset - start)) := by
  -- One line at a time: what follows the first newline is a shorter text.
  induction hlength : text.length using Nat.strongRecOn generalizing text start with
  | ind n ih =>
    by_cases hmem : '\n' ∈ text
    · obtain ⟨line, rest, rfl, hnone⟩ := List.eq_append_cons_of_mem hmem
      obtain ⟨chars, others, hothers⟩ :=
        exists_linesFrom_eq_cons (start + byteLength line + 1) rest
      rw [linesFrom_append_newline hnone, hothers]
      -- The offset is in the first line, of which its newline is part, or behind it.
      rcases Nat.lt_or_ge offset (start + byteLength line + 1) with hlt | hge
      · rw [countedPosition_of_lt h hlt, within_append_of_le (by omega)]
        exact charsWithin_eq_behind hnone _
      · have hrest : rest.length < n := by
          rw [← hlength, List.length_append, List.length_cons]
          omega
        have hbytes : offset - start =
            byteLength line + 1 + (offset - (start + byteLength line + 1)) := by
          omega
        have hbehind := ih rest.length hrest hge rest rfl
        rw [hothers] at hbehind
        rw [countedPosition_of_le h hge, hbehind, hbytes, within_append_newline_add,
          Position.behind_append_newline, List.count_eq_zero.2 hnone]
    · rw [linesFrom_of_not_mem hmem]
      simp only [countedPosition, h, List.takeWhile_cons, List.takeWhile_nil]
      exact charsWithin_eq_behind hmem _

/-- The position of an offset is that behind the characters that end at or before it. -/
theorem countedPosition_ofText (text : List Char) (offset : Nat) :
    (ofText text).countedPosition offset = Position.behind (within text offset) :=
  countedPosition_linesFrom (Nat.zero_le offset) text

/-- What follows a text does not change the positions in it, nor that of its end. -/
theorem position_append_of_le {offset : Nat} (h : offset ≤ byteLength text) (rest : List Char) :
    (ofText (text ++ rest)).position offset = (ofText text).position offset := by
  rw [position, position, countedPosition_ofText, countedPosition_ofText, within_append_of_le h]

/-- Behind a text and a newline the lines are counted on, and the columns are the same. -/
theorem countedPosition_append_newline (text rest : List Char) (offset : Nat) :
    (ofText (text ++ '\n' :: rest)).countedPosition (offset + byteLength (text ++ ['\n'])) =
      ⟨((ofText rest).countedPosition offset).line + (text ++ ['\n']).count '\n',
        ((ofText rest).countedPosition offset).column⟩ := by
  have hsplit := within_append_add (text ++ ['\n']) rest offset
  simp only [List.append_assoc, List.singleton_append] at hsplit
  rw [countedPosition_ofText, countedPosition_ofText, Nat.add_comm offset, hsplit,
    Position.behind_append_newline, List.count_append, Nat.add_comm]
  rfl

/-- The column of a position counts the characters of a slice that stops at or before the offset. -/
theorem exists_slice?_of_countedPosition (text : List Char) (offset : Nat) :
    ∃ start stop line, stop ≤ offset ∧ slice? text start stop = some line ∧
      ((ofText text).countedPosition offset).column = line.length + 1 := by
  obtain ⟨after, hafter⟩ := exists_eq_within_append text offset
  obtain ⟨before, hbefore⟩ := exists_eq_append_lastLine (within text offset)
  have hslice := slice?_append before (lastLine (within text offset)) after
  rw [← hbefore, ← hafter, ← byteLength_append, ← hbefore] at hslice
  exact ⟨_, _, _, byteLength_within_le text offset, hslice, by rw [countedPosition_ofText]; rfl⟩

/-- Neither the line nor the column of a position is greater than the bytes before it allow. -/
theorem countedPosition_le (text : List Char) (offset : Nat) :
    ((ofText text).countedPosition offset).line ≤ byteLength (within text offset) + 1 ∧
      ((ofText text).countedPosition offset).column ≤ byteLength (within text offset) + 1 := by
  have hlength := length_le_byteLength (within text offset)
  obtain ⟨before, hbefore⟩ := exists_eq_append_lastLine (within text offset)
  have hline := congrArg List.length hbefore
  rw [List.length_append] at hline
  rw [countedPosition_ofText, Position.behind]
  constructor
  · exact Nat.succ_le_succ (Nat.le_trans List.count_le_length hlength)
  · dsimp only
    omega

end LineIndex

end ProseLinter
