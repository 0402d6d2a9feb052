import Mathlib.Order.Bounds.Defs
import ProseLinter.Proofs.Document.PositionLimit

/-!
# Positions by search

The position of a byte offset can be looked up: the offset is clamped to the end of the text and
moved back to a boundary between characters, and a binary search in the table of the line starts
finds the line, whose characters up to the boundary are cut out and counted. Here this is done with
steps that may fail: an index may lie outside of the table, a number may go below zero, a cut may
not be possible, and a line or a column may have more than 32 bits. Only the last can happen, for the
greatest offset; otherwise the result is what a count from the start of the text gives.

* `LineIndex.lineStarts` : the table, made of the bytes of the text.
* `LineIndex.lineOf?_append` : the binary search finds the last line that starts at or before an
  offset.
* `LineIndex.position?_eq` : the search gives the position as it is counted, if this fits.
* `LineIndex.positions_by_counting` : the position of every offset, and the number of lines.
* `LineIndex.longLine_position_not_counted` : a text with an offset whose position is another one.
-/

namespace ProseLinter

/-! ### Bytes and boundaries -/

namespace Text

variable {cs ds text : List Char} {offset boundary : Nat}

/-- The bytes of a text in UTF-8. -/
def bytes (cs : List Char) : List UInt8 :=
  cs.flatMap String.utf8EncodeChar

/-- The byte that ends a line. -/
def newline : UInt8 := 10

@[simp]
theorem bytes_append (cs ds : List Char) : bytes (cs ++ ds) = bytes cs ++ bytes ds :=
  List.flatMap_append

@[simp]
theorem length_bytes (cs : List Char) : (bytes cs).length = byteLength cs := by
  induction cs with
  | nil => rfl
  | cons c cs ih =>
    rw [bytes, List.flatMap_cons, List.length_append, String.length_utf8EncodeChar, byteLength_cons]
    exact congrArg _ ih

/-- The newline is the only character that has the byte of a newline. -/
theorem count_utf8EncodeChar (c : Char) :
    (String.utf8EncodeChar c).count newline = if c == '\n' then 1 else 0 := by
  by_cases hc : c = '\n'
  · rw [hc]
    rfl
  · -- A byte of a longer code is at least 128, and a single byte is the character's own number.
    have hval : c.val.toNat ≠ 10 := fun h => hc (Char.ext (UInt32.toNat_inj.1 h))
    have hbyte {n : Nat} (hn : n < 256) (hne : n ≠ 10) : UInt8.ofNat n ≠ newline := by
      intro h
      have htoNat := congrArg UInt8.toNat h
      rw [UInt8.toNat_ofNat_of_lt' hn] at htoNat
      exact hne htoNat
    have hnone : newline ∉ String.utf8EncodeChar c := by
      intro hmem
      unfold String.utf8EncodeChar at hmem
      dsimp only at hmem
      split at hmem
      · exact hbyte (by omega) hval (List.mem_singleton.1 hmem).symm
      · split at hmem
        · simp only [List.mem_cons, List.not_mem_nil, or_false] at hmem
          rcases hmem with h | h <;> exact hbyte (by omega) (by omega) h.symm
        · split at hmem
          · simp only [List.mem_cons, List.not_mem_nil, or_false] at hmem
            rcases hmem with h | h | h <;> exact hbyte (by omega) (by omega) h.symm
          · simp only [List.mem_cons, List.not_mem_nil, or_false] at hmem
            rcases hmem with h | h | h | h <;> exact hbyte (by omega) (by omega) h.symm
    rw [List.count_eq_zero.2 hnone, if_neg (by simpa using hc)]

/-- Newlines may be counted among the bytes or among the characters. -/
theorem count_bytes (cs : List Char) : (bytes cs).count newline = cs.count '\n' := by
  induction cs with
  | nil => rfl
  | cons c cs ih =>
    rw [bytes, List.flatMap_cons, List.count_append, count_utf8EncodeChar, List.count_cons,
      Nat.add_comm]
    exact congrArg (· + _) ih

/-- An offset between two characters, at the start or at the end of a text. -/
def IsBoundary (text : List Char) (boundary : Nat) : Prop :=
  ∃ before after, text = before ++ after ∧ byteLength before = boundary

theorem isSome_dropBytes?_iff : (dropBytes? text boundary).isSome ↔ IsBoundary text boundary := by
  rw [Option.isSome_iff_exists, IsBoundary, exists_comm]
  exact exists_congr fun after => dropBytes?_eq_some_iff

/-- The characters that end at or before an offset stop at the last boundary up to it. -/
theorem isGreatest_within (text : List Char) (offset : Nat) :
    IsGreatest {b | IsBoundary text b ∧ b ≤ min offset (byteLength text)}
      (byteLength (within text offset)) := by
  constructor
  · obtain ⟨after, hafter⟩ := exists_eq_within_append text offset
    have hle := byteLength_within_le text offset
    have hend := byteLength_within_le_byteLength text offset
    exact ⟨⟨_, after, hafter, rfl⟩, by omega⟩
  · rintro b ⟨⟨before, after, rfl, rfl⟩, hb⟩
    -- All characters before the other boundary end before the offset too.
    obtain ⟨more, hmore⟩ : ∃ more, offset = byteLength before + more :=
      Nat.exists_eq_add_of_le (by omega)
    rw [hmore, within_append_add, byteLength_append]
    exact Nat.le_add_right ..

/-- The last boundary at or before an offset, looked for by going back one byte at a time; none if
this goes below zero. -/
def snapBack? (text : List Char) : Nat → Option Nat
  | 0 => if (dropBytes? text 0).isSome then some 0 else none
  | offset + 1 =>
    if (dropBytes? text (offset + 1)).isSome then some (offset + 1) else snapBack? text offset

/-- Going back stops at the last boundary. -/
theorem snapBack?_of_isGreatest (h : IsGreatest {b | IsBoundary text b ∧ b ≤ offset} boundary) :
    snapBack? text offset = some boundary := by
  obtain ⟨⟨hboundary, hle⟩, hgreatest⟩ := h
  induction offset with
  | zero =>
    obtain rfl : boundary = 0 := Nat.le_zero.1 hle
    exact if_pos (isSome_dropBytes?_iff.2 hboundary)
  | succ offset ih =>
    rw [snapBack?]
    split
    · next hcut =>
      have hnext := hgreatest ⟨isSome_dropBytes?_iff.1 hcut, Nat.le_refl _⟩
      exact congrArg some (Nat.le_antisymm hnext hle)
    · next hcut =>
      have hne : boundary ≠ offset + 1 := by
        rintro rfl
        exact hcut (isSome_dropBytes?_iff.2 hboundary)
      refine ih ?_ (by omega)
      rintro b ⟨hb, hble⟩
      exact hgreatest ⟨hb, Nat.le_succ_of_le hble⟩

end Text

open Text

/-- The position of a boundary as it is counted: the line by the newlines before it, and the column
by the characters behind the last one of these, or behind the start of the text. -/
structure Position.IsCounted (text : List Char) (boundary : Nat) (p : Position) : Prop where
  line_eq : p.line = 1 + ((bytes text).take boundary).count newline
  column_eq : ∃ start line, slice? text start boundary = some line ∧ '\n' ∉ line ∧
    (start = 0 ∨ 0 < start ∧ (bytes text)[start - 1]? = some newline) ∧
    p.column = 1 + line.length

namespace LineIndex

/-! ### The table of line starts -/

/-- The offsets behind the newlines among bytes of which the first has the given offset. -/
def startsFrom (offset : Nat) : List UInt8 → List Nat
  | [] => []
  | b :: bs =>
    if b == newline then (offset + 1) :: startsFrom (offset + 1) bs else startsFrom (offset + 1) bs

/-- The offsets at which the lines of a text start. -/
def lineStarts (text : List Char) : List Nat :=
  0 :: startsFrom 0 (bytes text)

variable {offset start : Nat} {bs bs' : List UInt8} {text before line after : List Char}

theorem startsFrom_append (offset : Nat) (bs bs' : List UInt8) :
    startsFrom offset (bs ++ bs') =
      startsFrom offset bs ++ startsFrom (offset + bs.length) bs' := by
  induction bs generalizing offset with
  | nil => rfl
  | cons b bs ih =>
    have hoffset : offset + (b :: bs).length = offset + 1 + bs.length := by
      rw [List.length_cons]
      omega
    rw [List.cons_append, startsFrom, startsFrom, ih, hoffset]
    split <;> rfl

theorem length_startsFrom (offset : Nat) (bs : List UInt8) :
    (startsFrom offset bs).length = bs.count newline := by
  induction bs generalizing offset with
  | nil => rfl
  | cons b bs ih =>
    rw [startsFrom, List.count_cons]
    split
    · rw [List.length_cons, ih]
    · rw [ih, Nat.add_zero]

theorem startsFrom_eq_nil (h : newline ∉ bs) (offset : Nat) : startsFrom offset bs = [] := by
  rw [← List.length_eq_zero_iff, length_startsFrom]
  exact List.count_eq_zero.2 h

/-- A line starts behind the bytes before it, and not behind the last byte. -/
theorem bounds_of_mem_startsFrom (h : start ∈ startsFrom offset bs) :
    offset < start ∧ start ≤ offset + bs.length := by
  induction bs generalizing offset with
  | nil => cases h
  | cons b bs ih =>
    rw [startsFrom] at h
    rw [List.length_cons]
    split at h
    · rcases List.mem_cons.1 h with rfl | h
      · omega
      · have := ih h
        omega
    · have := ih h
      omega

theorem pairwise_startsFrom (offset : Nat) (bs : List UInt8) :
    (startsFrom offset bs).Pairwise (· < ·) := by
  induction bs generalizing offset with
  | nil => exact .nil
  | cons b bs ih =>
    rw [startsFrom]
    split
    · exact .cons (fun _ h => (bounds_of_mem_startsFrom h).1) (ih _)
    · exact ih _

/-- The table is in strict order. -/
theorem pairwise_lineStarts (text : List Char) : (lineStarts text).Pairwise (· < ·) :=
  .cons (fun _ h => (bounds_of_mem_startsFrom h).1) (pairwise_startsFrom 0 _)

/-- The table has an entry for each line. -/
theorem length_lineStarts (text : List Char) :
    (lineStarts text).length = (ofText text).lineCount := by
  rw [lineStarts, List.length_cons, length_startsFrom, count_bytes, lineCount_ofText]

/-- The table of a text around one of its lines: the line and those before it start at or before
the line's start, and all others behind the part of the line that is given. -/
theorem exists_lineStarts_eq (hline : '\n' ∉ line)
    (hbefore : before = [] ∨ ∃ first, before = first ++ ['\n']) (after : List Char) :
    ∃ earlier later, lineStarts (before ++ line ++ after) =
        earlier ++ byteLength before :: later ∧
      earlier.length = before.count '\n' ∧
      (∀ s ∈ later, byteLength (before ++ line) < s) := by
  have hnone : startsFrom (byteLength before) (bytes line) = [] := by
    refine startsFrom_eq_nil ?_ _
    rw [← List.count_eq_zero, count_bytes]
    exact List.count_eq_zero.2 hline
  have hsplit : lineStarts (before ++ line ++ after) =
      lineStarts before ++ startsFrom (byteLength (before ++ line)) (bytes after) := by
    simp only [lineStarts, bytes_append, startsFrom_append, length_bytes, List.length_append,
      Nat.zero_add, hnone, List.append_nil, byteLength_append, List.cons_append]
  have hlength : (lineStarts before).dropLast.length = before.count '\n' := by
    rw [List.length_dropLast, length_lineStarts, lineCount_ofText, Nat.add_sub_cancel]
  refine ⟨(lineStarts before).dropLast, startsFrom (byteLength (before ++ line)) (bytes after),
    ?_, hlength, fun s hs => (bounds_of_mem_startsFrom hs).1⟩
  -- The last entry of the table for what stands before the line is the start of the line.
  have hback : lineStarts before = (lineStarts before).dropLast ++ [byteLength before] := by
    rcases hbefore with rfl | ⟨first, rfl⟩
    · rfl
    · have hend : lineStarts (first ++ ['\n']) =
          lineStarts first ++ [byteLength (first ++ ['\n'])] := by
        rw [lineStarts, bytes_append, startsFrom_append, length_bytes, Nat.zero_add,
          byteLength_append]
        rfl
      rw [hend, List.dropLast_concat]
  rw [hsplit, ← List.singleton_append, ← List.append_assoc, ← hback]

/-! ### The binary search -/

/-- What a search in an ordered table comes to: the index of the key, or the index at which it could
be put in. -/
inductive Place where
  | found (index : Nat)
  | absent (next : Nat)

/-- The binary search for a key between two indices of a table. -/
def searchBetween (table : Array Nat) (key low high : Nat) (hhigh : high ≤ table.size) : Place :=
  if hlow : low < high then
    let middle := low + (high - low) / 2
    have hmiddle : middle < table.size := by omega
    if table[middle] = key then .found middle
    else if table[middle] < key then searchBetween table key (middle + 1) high hhigh
    else searchBetween table key low middle (Nat.le_of_lt hmiddle)
  else .absent low
termination_by high - low

/-- The place of a key in a table: the key stands there, or all entries before are smaller and all
others are greater. -/
inductive Place.IsOf (table : Array Nat) (key : Nat) : Place → Prop
  | found {index : Nat} (h : table[index]? = some key) : IsOf table key (.found index)
  | absent {next : Nat} (hnext : next ≤ table.size)
      (hbelow : ∀ i s, table[i]? = some s → i < next → s < key)
      (habove : ∀ i s, table[i]? = some s → next ≤ i → key < s) : IsOf table key (.absent next)

/-- The search in a table in strict order, from indices around which all entries are known to be too
small or too great. -/
theorem isOf_searchBetween {table : Array Nat} {key low high : Nat} {hhigh : high ≤ table.size}
    (hsorted : ∀ i j s t : Nat, table[i]? = some s → table[j]? = some t → i < j → s < t)
    (hle : low ≤ high) (hbelow : ∀ i s, table[i]? = some s → i < low → s < key)
    (habove : ∀ i s, table[i]? = some s → high ≤ i → key < s) :
    (searchBetween table key low high hhigh).IsOf table key := by
  fun_induction searchBetween table key low high hhigh with
  | case1 low high hhigh hlow middle hmiddle heq =>
    apply Place.IsOf.found
    rw [Array.getElem?_eq_getElem hmiddle, heq]
  | case2 low high hhigh hlow middle hmiddle hne hlt ih =>
    refine ih (by omega) ?_ habove
    -- All entries up to the middle are at most the one in the middle.
    intro i s hs hi
    rcases Nat.lt_or_eq_of_le (Nat.le_of_lt_succ hi) with hi | rfl
    · exact Nat.lt_trans (hsorted i middle s _ hs (Array.getElem?_eq_getElem hmiddle) hi) hlt
    · rw [Array.getElem?_eq_getElem hmiddle] at hs
      exact Option.some.inj hs ▸ hlt
  | case3 low high hhigh hlow middle hmiddle hne hnot ih =>
    refine ih (by omega) hbelow ?_
    intro i s hs hi
    have hgt : key < table[middle] := by omega
    rcases Nat.lt_or_eq_of_le hi with hi | rfl
    · exact Nat.lt_trans hgt (hsorted middle i _ s (Array.getElem?_eq_getElem hmiddle) hs hi)
    · rw [Array.getElem?_eq_getElem hmiddle] at hs
      exact Option.some.inj hs ▸ hgt
  | case4 low high hhigh hlow =>
    obtain rfl : low = high := by omega
    exact .absent hhigh hbelow habove

/-- The binary search for a key in a table. -/
def search (table : List Nat) (key : Nat) : Place :=
  searchBetween table.toArray key 0 table.toArray.size (Nat.le_refl _)

/-- The search in a table in strict order finds the place of the key. -/
theorem isOf_search {table : List Nat} (hsorted : table.Pairwise (· < ·)) (key : Nat) :
    (search table key).IsOf table.toArray key := by
  apply isOf_searchBetween
  · intro i j s t hs ht hij
    rw [List.getElem?_toArray] at hs ht
    obtain ⟨hi, rfl⟩ := List.getElem?_eq_some_iff.1 hs
    obtain ⟨hj, rfl⟩ := List.getElem?_eq_some_iff.1 ht
    exact List.pairwise_iff_getElem.1 hsorted i j hi hj hij
  · exact Nat.zero_le _
  · intro i s _ hi
    exact absurd hi (Nat.not_lt_zero i)
  · intro i s hs hi
    rw [Array.getElem?_eq_none hi] at hs
    cases hs

/-- The index of the line in which an offset lies: that of the line which starts there, or the one
before the next line; none if there is no line before it. -/
def lineOf? (table : List Nat) (offset : Nat) : Option Nat :=
  match search table offset with
  | .found index => some index
  | .absent 0 => none
  | .absent (next + 1) => some next

/-- An entry of a table stands before a line that starts at or before an offset and is smaller, or
it is the start of that line, or it stands behind the line and behind the offset. -/
theorem entry_cases {earlier later : List Nat} {index entry : Nat}
    (hsorted : (earlier ++ start :: later).Pairwise (· < ·)) (hlater : ∀ s ∈ later, offset < s)
    (h : (earlier ++ start :: later).toArray[index]? = some entry) :
    index < earlier.length ∧ entry < start ∨ index = earlier.length ∧ entry = start ∨
      earlier.length < index ∧ offset < entry := by
  rw [List.getElem?_toArray] at h
  rcases Nat.lt_trichotomy index earlier.length with hlt | rfl | hgt
  · rw [List.getElem?_append_left hlt] at h
    have hless := (List.pairwise_append.1 hsorted).2.2 entry (List.mem_of_getElem? h) start
    exact .inl ⟨hlt, hless List.mem_cons_self⟩
  · rw [List.getElem?_append_right (Nat.le_refl _), Nat.sub_self, List.getElem?_cons_zero] at h
    exact .inr (.inl ⟨rfl, (Option.some.inj h).symm⟩)
  · obtain ⟨k, rfl⟩ := Nat.exists_eq_add_of_lt hgt
    rw [List.getElem?_append_right (by omega), Nat.add_assoc, Nat.add_sub_cancel_left,
      List.getElem?_cons_succ] at h
    exact .inr (.inr ⟨hgt, hlater entry (List.mem_of_getElem? h)⟩)

/-- The search finds the last line that starts at or before an offset. -/
theorem lineOf?_append {earlier later : List Nat}
    (hsorted : (earlier ++ start :: later).Pairwise (· < ·)) (hstart : start ≤ offset)
    (hlater : ∀ s ∈ later, offset < s) :
    lineOf? (earlier ++ start :: later) offset = some earlier.length := by
  have hplace := isOf_search hsorted offset
  rw [lineOf?]
  generalize hsearch : search (earlier ++ start :: later) offset = place at hplace
  cases hplace with
  | @found index hfound =>
    -- The entry is the offset, so it stands neither before `start` nor behind it.
    have hindex : index = earlier.length := by
      rcases entry_cases hsorted hlater hfound with ⟨-, hless⟩ | ⟨heq, -⟩ | ⟨-, hgreater⟩
      · omega
      · exact heq
      · omega
    rw [hindex]
  | @absent next hnext hbelow habove =>
    have hlt : earlier.length < next := by
      apply Nat.lt_of_not_le
      intro hge
      have hhere : (earlier ++ start :: later).toArray[earlier.length]? = some start := by
        rw [List.getElem?_toArray, List.getElem?_append_right (Nat.le_refl _), Nat.sub_self,
          List.getElem?_cons_zero]
      have hgreater := habove earlier.length start hhere hge
      omega
    have hle : next ≤ earlier.length + 1 := by
      apply Nat.le_of_not_lt
      intro hgt
      -- The entry behind `start` would be smaller than the offset, and it is greater.
      have hin : earlier.length + 1 < (earlier ++ start :: later).toArray.size := by omega
      have hentry := Array.getElem?_eq_getElem hin
      have hless := hbelow _ _ hentry hgt
      rcases entry_cases hsorted hlater hentry with ⟨hindex, -⟩ | ⟨hindex, -⟩ | ⟨-, hgreater⟩
      all_goals omega
    obtain rfl : next = earlier.length + 1 := by omega
    rfl

/-! ### Looking a position up -/

/-- The position of an offset as it is looked up; none when a step fails. -/
def position? (text : List Char) (offset : Nat) : Option Position := do
  let boundary ← snapBack? text (min offset (byteLength text))
  let index ← lineOf? (lineStarts text) boundary
  let start ← (lineStarts text)[index]?
  let line ← slice? text start boundary
  return ⟨← Span.next? index, ← Span.next? line.length⟩

/-- A text around the line in which an offset lies: the line up to the offset has no newline, and
it starts behind one or where the text does. -/
theorem exists_line (text : List Char) (offset : Nat) :
    ∃ before line after, text = before ++ line ++ after ∧ '\n' ∉ line ∧
      (before = [] ∨ ∃ first, before = first ++ ['\n']) ∧ within text offset = before ++ line ∧
      (ofText text).countedPosition offset = ⟨before.count '\n' + 1, line.length + 1⟩ := by
  obtain ⟨after, hafter⟩ := exists_eq_within_append text offset
  obtain ⟨before, hbefore, hline, hnewline⟩ := exists_before_lastLine (within text offset)
  have hcount := congrArg (List.count '\n') hbefore
  rw [List.count_append, List.count_eq_zero.2 hline, Nat.add_zero] at hcount
  refine ⟨before, lastLine (within text offset), after, ?_, hline, hnewline, hbefore, ?_⟩
  · rw [← hbefore]
    exact hafter
  · rw [countedPosition_ofText, Position.behind, hcount]

/-- No step of looking a position up fails but the last ones, and these only if the position does
not fit. -/
theorem position?_eq (hoffset : offset < Span.limit) (text : List Char) :
    position? text offset =
      if ((ofText text).countedPosition offset).Fits then
        some ((ofText text).countedPosition offset)
      else none := by
  obtain ⟨before, line, after, htext, hline, hnewline, hwithin, hposition⟩ :=
    exists_line text offset
  have hsnap := snapBack?_of_isGreatest (isGreatest_within text offset)
  rw [hwithin, byteLength_append] at hsnap
  obtain ⟨earlier, later, htable, hlength, hlater⟩ := exists_lineStarts_eq hline hnewline after
  rw [← htext] at htable
  rw [byteLength_append] at hlater
  have hfound : lineOf? (lineStarts text) (byteLength before + byteLength line) =
      some earlier.length := by
    have hsorted := pairwise_lineStarts text
    rw [htable] at hsorted ⊢
    exact lineOf?_append hsorted (Nat.le_add_right ..) hlater
  have hentry : (lineStarts text)[earlier.length]? = some (byteLength before) := by
    rw [htable, List.getElem?_append_right (Nat.le_refl _), Nat.sub_self, List.getElem?_cons_zero]
  have hcut := slice?_append before line after
  rw [← htext] at hcut
  -- Neither number is greater than the offset, so it is only the next one that may not fit.
  have hbytes := byteLength_within_le text offset
  have hle := countedPosition_le text offset
  rw [hposition] at hle ⊢
  dsimp only at hle
  have hindex : earlier.length < Span.limit := by omega
  have hchars : line.length < Span.limit := by omega
  simp only [position?, Option.bind_eq_bind, hsnap, hfound, hentry, hcut, Option.bind_some,
    Span.next?_of_lt hindex, Span.next?_of_lt hchars]
  rw [hlength]
  by_cases hline : before.count '\n' + 1 < Span.limit
  · by_cases hcolumn : line.length + 1 < Span.limit <;> simp [Position.Fits, hline, hcolumn]
  · simp [Position.Fits, hline]

/-- The position of an offset is counted up to the boundary behind the characters that end at or
before it. -/
theorem isCounted_countedPosition (text : List Char) (offset : Nat) :
    Position.IsCounted text (byteLength (within text offset))
      ((ofText text).countedPosition offset) := by
  obtain ⟨before, line, after, htext, hline, hnewline, hwithin, hposition⟩ :=
    exists_line text offset
  rw [hposition, hwithin]
  constructor
  · have hbytes : (bytes text).take (byteLength (before ++ line)) = bytes (before ++ line) := by
      rw [htext, bytes_append _ after, ← length_bytes, List.take_left]
    rw [hbytes, count_bytes, List.count_append, List.count_eq_zero.2 hline]
    exact Nat.add_comm ..
  · refine ⟨byteLength before, line, ?_, hline, ?_, Nat.add_comm ..⟩
    · rw [htext, byteLength_append]
      exact slice?_append before line after
    · rcases hnewline with rfl | ⟨first, rfl⟩
      · exact .inl rfl
      · -- The newline is the last byte of what stands before the line.
        have hend : byteLength (first ++ ['\n']) = (bytes first).length + 1 := by
          rw [byteLength_append, length_bytes]
          rfl
        refine .inr ⟨by omega, ?_⟩
        rw [hend, Nat.add_sub_cancel, htext, bytes_append, bytes_append, bytes_append,
          List.append_assoc, List.append_assoc, List.getElem?_append_right (Nat.le_refl _),
          Nat.sub_self]
        rfl

/-- A position that is zero somewhere is not counted. -/
theorem not_isCounted_of_overflows {boundary : Nat} (h : Overflows text offset) :
    ¬ Position.IsCounted text boundary ((ofText text).position offset) := by
  rintro ⟨hline, start, line, -, -, -, hcolumn⟩
  rcases position_of_overflows h with hposition | hposition
  · rw [hposition] at hcolumn
    change 0 = 1 + line.length at hcolumn
    omega
  · rw [hposition] at hline
    change 0 = 1 + _ at hline
    omega

/-- A text has one line more than newlines. The position of every offset of 32 bits, also of one
inside a character or past the end of the text, is counted up to the last boundary at or before it,
exactly unless the offset is the greatest one and what stands before it are characters of one byte
that make up one line, or newlines only. Exactly then a step fails when the position is looked up:
by moving back to that boundary, searching the table of the line starts, cutting out the line and
counting both. Otherwise this gives the position too. -/
theorem positions_by_counting (text : List Char) :
    (ofText text).lineCount = 1 + (bytes text).count newline ∧
    (lineStarts text).length = (ofText text).lineCount ∧
    ∀ offset, offset < Span.limit →
      ∃ boundary, IsGreatest {b | IsBoundary text b ∧ b ≤ min offset (byteLength text)} boundary ∧
        (Position.IsCounted text boundary ((ofText text).position offset) ↔
          ¬ Overflows text offset) ∧
        (position? text offset = some ((ofText text).position offset) ↔ ¬ Overflows text offset) ∧
        (position? text offset = none ↔ Overflows text offset) := by
  refine ⟨?_, length_lineStarts text, fun offset hoffset => ?_⟩
  · rw [lineCount_ofText, count_bytes, Nat.add_comm]
  · have hfits : ((ofText text).countedPosition offset).Fits ↔ ¬ Overflows text offset :=
      fits_countedPosition_iff hoffset
    have hlookup := position?_eq hoffset text
    refine ⟨_, isGreatest_within text offset, ⟨?_, ?_⟩, ?_⟩
    · exact fun hcounted hoverflows => not_isCounted_of_overflows hoverflows hcounted
    · intro hnot
      rw [position_eq_counted hoffset hnot]
      exact isCounted_countedPosition text offset
    · by_cases h : Overflows text offset
      · rw [if_neg fun hf => hfits.1 hf h] at hlookup
        simp [hlookup, h]
      · rw [if_pos (hfits.2 h), ← position_eq_counted hoffset h] at hlookup
        simp [hlookup, h]

/-- The fourth byte of the text is the second one of its second line, inside a character. -/
theorem accentedText_positions_by_counting :
    let text := "é\né".toList
    4 < Span.limit ∧ ¬ Overflows text 4 ∧ position? text 4 = some ((ofText text).position 4) ∧
      ∃ boundary, IsGreatest {b | IsBoundary text b ∧ b ≤ min 4 (byteLength text)} boundary ∧
        Position.IsCounted text boundary ((ofText text).position 4) := by
  intro text
  have hoffset : 4 < Span.limit := by decide
  have hnot : ¬ Overflows text 4 := fun ⟨hlast, _, _, _, _⟩ => absurd hlast (by decide)
  obtain ⟨boundary, hboundary, hcounted, hlookup, -⟩ :=
    (positions_by_counting text).2.2 4 hoffset
  exact ⟨hoffset, hnot, hlookup.2 hnot, boundary, hboundary, hcounted.2 hnot⟩

/-- Of the greatest offset, at the end of one line, the column is zero and not the number of the
characters before it and one more, and looking the position up fails. -/
theorem longLine_position_not_counted :
    Span.limit - 1 < Span.limit ∧
      (ofText longLine).position (Span.limit - 1) = ⟨1, 0⟩ ∧
      position? longLine (Span.limit - 1) = none ∧
      ∀ boundary, ¬ Position.IsCounted longLine boundary
        ((ofText longLine).position (Span.limit - 1)) := by
  have hoffset : Span.limit - 1 < Span.limit := by decide
  have hnot := mt (fits_countedPosition_iff hoffset).1 (not_not_intro overflows_longLine)
  refine ⟨hoffset, position_longLine, ?_, fun _ => not_isCounted_of_overflows overflows_longLine⟩
  rw [position?_eq hoffset, if_neg hnot]

end LineIndex

end ProseLinter
