/-!
# Byte offsets

Offsets into a text count the bytes of its UTF-8 form. This module measures texts in bytes and
cuts them at byte offsets; a cut is possible only between two characters.

* `dropBytes?_append` : what is left after the bytes of a first part is the part after it.
* `slice?_append` : the slice between the offsets around a part is that part.
-/

namespace ProseLinter.Text

/-- The number of bytes of a text in UTF-8. -/
def byteLength (cs : List Char) : Nat :=
  cs.foldl (fun n c => n + c.utf8Size) 0

/-- The rest of a text after so many bytes; none when the cut is past the end or inside a
character. -/
def dropBytes? : List Char → Nat → Option (List Char)
  | cs, 0 => some cs
  | [], _ + 1 => none
  | c :: cs, n + 1 =>
    if c.utf8Size ≤ n + 1 then dropBytes? cs (n + 1 - c.utf8Size) else none

/-- The characters of the next so many bytes behind those already taken, of which the last one
comes first. -/
def takeBytesFrom? (taken : List Char) : List Char → Nat → Option (List Char)
  | _, 0 => some taken.reverse
  | [], _ + 1 => none
  | c :: cs, n + 1 =>
    if c.utf8Size ≤ n + 1 then takeBytesFrom? (c :: taken) cs (n + 1 - c.utf8Size) else none

/-- The first so many bytes of a text; none when the cut is past the end or inside a character. -/
def takeBytes? (cs : List Char) (n : Nat) : Option (List Char) :=
  takeBytesFrom? [] cs n

/-- The part of a text between two byte offsets; none when they are out of order, past the end or
inside a character. -/
def slice? (cs : List Char) (start stop : Nat) : Option (List Char) :=
  if start ≤ stop then (dropBytes? cs start).bind (takeBytes? · (stop - start)) else none

theorem foldl_utf8Size (cs : List Char) (n : Nat) :
    cs.foldl (fun n c => n + c.utf8Size) n = n + byteLength cs := by
  unfold byteLength
  induction cs generalizing n with
  | nil => rfl
  | cons c cs ih => rw [List.foldl_cons, List.foldl_cons, ih, ih (0 + c.utf8Size)]; omega

@[simp] theorem byteLength_nil : byteLength [] = 0 := rfl

@[simp] theorem byteLength_cons (c : Char) (cs : List Char) :
    byteLength (c :: cs) = c.utf8Size + byteLength cs := by
  rw [byteLength, List.foldl_cons, foldl_utf8Size, Nat.zero_add]

@[simp] theorem byteLength_append (cs ds : List Char) :
    byteLength (cs ++ ds) = byteLength cs + byteLength ds := by
  induction cs with
  | nil => simp
  | cons c cs ih => simp [ih, Nat.add_assoc]

/-- What is left after the bytes of a first part is the part after it. -/
theorem dropBytes?_append (cs ds : List Char) :
    dropBytes? (cs ++ ds) (byteLength cs) = some ds := by
  induction cs with
  | nil => simp [dropBytes?]
  | cons c cs ih =>
    have : 0 < c.utf8Size := c.utf8Size_pos
    rw [List.cons_append, byteLength_cons]
    cases h : c.utf8Size + byteLength cs with
    | zero => omega
    | succ n =>
      rw [dropBytes?, if_pos (by omega), ← h, Nat.add_sub_cancel_left, ih]

theorem takeBytesFrom?_append (taken cs ds : List Char) :
    takeBytesFrom? taken (cs ++ ds) (byteLength cs) = some (taken.reverse ++ cs) := by
  induction cs generalizing taken with
  | nil => simp [takeBytesFrom?]
  | cons c cs ih =>
    have : 0 < c.utf8Size := c.utf8Size_pos
    rw [List.cons_append, byteLength_cons]
    cases h : c.utf8Size + byteLength cs with
    | zero => omega
    | succ n =>
      rw [takeBytesFrom?, if_pos (by omega), ← h, Nat.add_sub_cancel_left, ih]
      simp

/-- The bytes of a first part are those of its characters. -/
theorem takeBytes?_append (cs ds : List Char) :
    takeBytes? (cs ++ ds) (byteLength cs) = some cs := by
  simp [takeBytes?, takeBytesFrom?_append]

/-- The slice between the offsets around a middle part is that part. -/
theorem slice?_append (cs ds es : List Char) :
    slice? (cs ++ ds ++ es) (byteLength cs) (byteLength cs + byteLength ds) = some ds := by
  rw [slice?, if_pos (Nat.le_add_right _ _), List.append_assoc, dropBytes?_append,
    Option.bind_some, Nat.add_sub_cancel_left, takeBytes?_append]

end ProseLinter.Text
