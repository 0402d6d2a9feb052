import ProseLinter.Text.LowerCase
import ProseLinter.Text.Slice

/-!
# Slices of texts

A slice exists exactly between two cuts of the text, and says what stands between them. Everything
else about slices follows: slices of slices, slices of longer texts, and slices of a text of which
every character was replaced by one of the same size.

* `slice?_eq_some_iff` : a slice is a middle part of the text, with the offsets around it.
* `slice?_of_slice?` : a slice of a slice is a slice of the text.
* `prefix_of_slice?` : of two slices at one offset the shorter begins the other.
* `slice?_append_of_le` and `slice?_shift` : slices of a text inside a longer one.
* `exists_slice?_of_map` : the offsets around a slice of an image are those of a slice of the text.
-/

namespace ProseLinter.Text

variable {cs ds es : List Char} {start stop n : Nat}

theorem dropBytes?_eq_some_iff :
    dropBytes? cs n = some ds ↔ ∃ before, cs = before ++ ds ∧ byteLength before = n := by
  constructor
  · intro h
    fun_induction dropBytes? cs n with
    | case1 cs => exact ⟨[], by simpa using h, rfl⟩
    | case2 n => simp at h
    | case3 c cs n hc ih =>
      obtain ⟨before, rfl, hlength⟩ := ih h
      exact ⟨c :: before, rfl, by rw [byteLength_cons]; omega⟩
    | case4 c cs n hc => simp at h
  · rintro ⟨before, rfl, rfl⟩
    exact dropBytes?_append before ds

theorem takeBytesFrom?_eq_some_iff {taken : List Char} :
    takeBytesFrom? taken cs n = some ds ↔
      ∃ part after, cs = part ++ after ∧ byteLength part = n ∧ ds = taken.reverse ++ part := by
  constructor
  · intro h
    fun_induction takeBytesFrom? taken cs n with
    | case1 taken cs => exact ⟨[], cs, rfl, rfl, by simpa using h.symm⟩
    | case2 taken n => simp at h
    | case3 taken c cs n hc ih =>
      obtain ⟨part, after, rfl, hlength, rfl⟩ := ih h
      exact ⟨c :: part, after, rfl, by rw [byteLength_cons]; omega, by simp⟩
    | case4 taken c cs n hc => simp at h
  · rintro ⟨part, after, rfl, rfl, rfl⟩
    exact takeBytesFrom?_append taken part after

theorem takeBytes?_eq_some_iff :
    takeBytes? cs n = some ds ↔ ∃ after, cs = ds ++ after ∧ byteLength ds = n := by
  simp only [takeBytes?, takeBytesFrom?_eq_some_iff, List.reverse_nil, List.nil_append]
  constructor
  · rintro ⟨part, after, rfl, rfl, rfl⟩
    exact ⟨after, rfl, rfl⟩
  · rintro ⟨after, rfl, rfl⟩
    exact ⟨ds, after, rfl, rfl, rfl⟩

/-- A slice is a middle part of the text, and the offsets are those around it. -/
theorem slice?_eq_some_iff :
    slice? cs start stop = some ds ↔
      ∃ before after, cs = before ++ ds ++ after ∧ byteLength before = start ∧
        stop = start + byteLength ds := by
  constructor
  · intro h
    rw [slice?] at h
    split at h
    · next hle =>
      obtain ⟨rest, hrest, htake⟩ := Option.bind_eq_some_iff.1 h
      obtain ⟨before, rfl, rfl⟩ := dropBytes?_eq_some_iff.1 hrest
      obtain ⟨after, rfl, hlength⟩ := takeBytes?_eq_some_iff.1 htake
      exact ⟨before, after, (List.append_assoc ..).symm, rfl, by omega⟩
    · simp at h
  · rintro ⟨before, after, rfl, rfl, rfl⟩
    exact slice?_append before ds after

/-- A slice has as many bytes as its offsets are apart. -/
theorem stop_of_slice? (h : slice? cs start stop = some ds) : stop = start + byteLength ds := by
  obtain ⟨before, after, -, -, hstop⟩ := slice?_eq_some_iff.1 h
  exact hstop

/-- A slice does not reach past the end of the text. -/
theorem stop_le_of_slice? (h : slice? cs start stop = some ds) : stop ≤ byteLength cs := by
  obtain ⟨before, after, rfl, rfl, rfl⟩ := slice?_eq_some_iff.1 h
  simp only [byteLength_append]
  omega

/-- A slice of a slice is a slice of the text. -/
theorem slice?_of_slice? {start' stop' : Nat} (h : slice? cs start stop = some ds)
    (h' : slice? ds start' stop' = some es) :
    slice? cs (start + start') (start + stop') = some es := by
  obtain ⟨before, after, rfl, rfl, -⟩ := slice?_eq_some_iff.1 h
  obtain ⟨before', after', rfl, rfl, rfl⟩ := slice?_eq_some_iff.1 h'
  refine slice?_eq_some_iff.2 ⟨before ++ before', after' ++ after, ?_, ?_, ?_⟩
  · simp only [List.append_assoc]
  · exact byteLength_append before before'
  · omega

/-- Only the empty text has no bytes. -/
theorem byteLength_eq_zero : byteLength cs = 0 ↔ cs = [] := by
  cases cs with
  | nil => simp
  | cons c cs => simp [Nat.ne_of_gt c.utf8Size_pos]

theorem byteLength_replicate (n : Nat) (c : Char) :
    byteLength (List.replicate n c) = n * c.utf8Size := by
  induction n with
  | zero => simp
  | succ n ih => rw [List.replicate_succ, byteLength_cons, ih, Nat.succ_mul, Nat.add_comm]

/-- Of two texts with which one text begins, the one with fewer bytes begins the other. -/
theorem exists_append_of_byteLength_le {before after before' after' : List Char}
    (h : before ++ after = before' ++ after') (hle : byteLength before ≤ byteLength before') :
    ∃ between, before' = before ++ between ∧ after = between ++ after' := by
  rcases List.append_eq_append_iff.1 h with ⟨between, hbefore, hafter⟩ | ⟨between, rfl, rfl⟩
  · exact ⟨between, hbefore, hafter⟩
  · -- The first text would begin with the second one and a rest, and there is no room for a rest.
    have hnone : byteLength between = 0 := by
      rw [byteLength_append] at hle
      omega
    obtain rfl := byteLength_eq_zero.1 hnone
    exact ⟨[], by simp, by simp⟩

/-- Of two slices that start at one offset the shorter begins the other. -/
theorem prefix_of_slice? {stop' : Nat} (h : slice? cs start stop = some ds)
    (h' : slice? cs start stop' = some es) (hle : stop ≤ stop') : ds <+: es := by
  obtain ⟨before, after, rfl, rfl, rfl⟩ := slice?_eq_some_iff.1 h
  obtain ⟨before', after', hcs, hbefore, rfl⟩ := slice?_eq_some_iff.1 h'
  rw [List.append_assoc, List.append_assoc] at hcs
  -- What stands before both slices is the same, and so is what begins with them.
  obtain ⟨between, rfl, hbehind⟩ := exists_append_of_byteLength_le hcs (Nat.le_of_eq hbefore.symm)
  rw [byteLength_append] at hbefore
  obtain rfl := byteLength_eq_zero.1 (Nat.left_eq_add.1 hbefore.symm)
  rw [List.nil_append] at hbehind
  obtain ⟨more, rfl, -⟩ := exists_append_of_byteLength_le hbehind (Nat.le_of_add_le_add_left hle)
  exact ⟨more, rfl⟩

/-- What follows a text does not change the slices that stop in it. -/
theorem slice?_append_of_le (h : stop ≤ byteLength cs) (rest : List Char) :
    slice? (cs ++ rest) start stop = slice? cs start stop := by
  ext part
  rw [slice?_eq_some_iff, slice?_eq_some_iff]
  constructor
  · rintro ⟨before, after, hcs, rfl, rfl⟩
    obtain ⟨after', rfl, -⟩ := exists_append_of_byteLength_le hcs.symm
      (by rwa [byteLength_append])
    exact ⟨before, after', rfl, rfl, rfl⟩
  · rintro ⟨before, after, rfl, rfl, rfl⟩
    exact ⟨before, after ++ rest, by simp only [List.append_assoc], rfl, rfl⟩

/-- What stands before a text moves its slices. -/
theorem slice?_shift (before : List Char) :
    slice? (before ++ cs) (start + byteLength before) (stop + byteLength before) =
      slice? cs start stop := by
  ext part
  rw [slice?_eq_some_iff, slice?_eq_some_iff]
  constructor
  · rintro ⟨first, after, hcs, hstart, hstop⟩
    rw [List.append_assoc] at hcs
    -- The slice starts behind `before`, so what stands before the slice begins with it.
    obtain ⟨before', rfl, rfl⟩ := exists_append_of_byteLength_le hcs (by omega)
    rw [byteLength_append] at hstart
    exact ⟨before', after, (List.append_assoc ..).symm, by omega, by omega⟩
  · rintro ⟨before', after, rfl, rfl, rfl⟩
    refine ⟨before ++ before', after, by simp only [List.append_assoc], ?_, by omega⟩
    rw [byteLength_append, Nat.add_comm]

/-! ### Images of texts -/

/-- Characters replaced by ones of the same size have as many bytes. -/
theorem byteLength_map {f : Char → Char} (hf : ∀ c, (f c).utf8Size = c.utf8Size)
    (cs : List Char) : byteLength (cs.map f) = byteLength cs := by
  induction cs with
  | nil => rfl
  | cons c cs ih => rw [List.map_cons, byteLength_cons, byteLength_cons, hf, ih]

/-- Where every character is replaced by one of the same size, the offsets around a slice of the
image are those around the slice of the text that it is the image of. -/
theorem exists_slice?_of_map {f : Char → Char} (hf : ∀ c, (f c).utf8Size = c.utf8Size)
    (h : slice? (cs.map f) start stop = some ds) :
    ∃ es, slice? cs start stop = some es ∧ es.map f = ds := by
  obtain ⟨before, after, hcs, rfl, rfl⟩ := slice?_eq_some_iff.1 h
  -- The text is cut where its image is, and all parts have as many bytes as their images.
  obtain ⟨first, after', rfl, hfirst, rfl⟩ := List.map_eq_append_iff.1 hcs
  obtain ⟨before', es, rfl, rfl, rfl⟩ := List.map_eq_append_iff.1 hfirst
  refine ⟨es, slice?_eq_some_iff.2 ⟨before', after', rfl, ?_, ?_⟩, rfl⟩
  · exact (byteLength_map hf before').symm
  · rw [byteLength_map hf, byteLength_map hf]

/-- The slices of an image are the images of the slices. -/
theorem slice?_map {f : Char → Char} (hf : ∀ c, (f c).utf8Size = c.utf8Size) (cs : List Char)
    (start stop : Nat) : slice? (cs.map f) start stop = (slice? cs start stop).map (List.map f) := by
  ext part
  rw [Option.map_eq_some_iff]
  constructor
  · exact exists_slice?_of_map hf
  · rintro ⟨es, hes, rfl⟩
    obtain ⟨before, after, rfl, rfl, rfl⟩ := slice?_eq_some_iff.1 hes
    refine slice?_eq_some_iff.2 ⟨before.map f, after.map f, ?_, byteLength_map hf before, ?_⟩
    · rw [List.map_append, List.map_append]
    · rw [byteLength_map hf]

/-- ASCII characters have one byte. -/
theorem utf8Size_eq_one {c : Char} (h : c.val.toNat ≤ 127) : c.utf8Size = 1 :=
  Char.utf8Size_eq_one_iff.2 (UInt32.le_iff_toNat_le.2 h)

/-- A character is its own small letter, or it is an ASCII capital and its small letter comes 32
places later. -/
theorem toLower_cases (c : Char) :
    c.toLower = c ∨ (65 ≤ c.val.toNat ∧ c.val.toNat ≤ 90) ∧
      c.toLower.val.toNat = c.val.toNat + 32 := by
  unfold Char.toLower
  split
  · next h =>
    have hlow : 65 ≤ c.val.toNat := UInt32.le_iff_toNat_le.1 h.1
    have hhigh : c.val.toNat ≤ 90 := UInt32.le_iff_toNat_le.1 h.2
    have himage : (c.val + ('a'.val - 'A'.val)).toNat = (c.val.toNat + 32) % 2 ^ 32 :=
      UInt32.toNat_add ..
    exact .inr ⟨⟨hlow, hhigh⟩, himage.trans (Nat.mod_eq_of_lt (by omega))⟩
  · exact .inl rfl

/-- A character is its own capital, or it is an ASCII small letter and its capital comes 32 places
earlier. -/
theorem toUpper_cases (c : Char) :
    c.toUpper = c ∨ (97 ≤ c.val.toNat ∧ c.val.toNat ≤ 122) ∧
      c.toUpper.val.toNat + 32 = c.val.toNat := by
  unfold Char.toUpper
  split
  · next h =>
    have hlow : 97 ≤ c.val.toNat := UInt32.le_iff_toNat_le.1 h.1
    have hhigh : c.val.toNat ≤ 122 := UInt32.le_iff_toNat_le.1 h.2
    have himage : (c.val + ('A'.val - 'a'.val)).toNat = (c.val.toNat + (2 ^ 32 - 32)) % 2 ^ 32 :=
      UInt32.toNat_add ..
    refine .inr ⟨⟨hlow, hhigh⟩, ?_⟩
    rw [himage]
    omega
  · exact .inl rfl

theorem utf8Size_toLower (c : Char) : c.toLower.utf8Size = c.utf8Size := by
  rcases toLower_cases c with h | ⟨hletter, himage⟩
  · rw [h]
  · rw [utf8Size_eq_one (c := c) (by omega), utf8Size_eq_one (by omega)]

theorem utf8Size_toUpper (c : Char) : c.toUpper.utf8Size = c.utf8Size := by
  rcases toUpper_cases c with h | ⟨hletter, himage⟩
  · rw [h]
  · rw [utf8Size_eq_one (c := c) (by omega), utf8Size_eq_one (by omega)]

/-- What is not an ASCII letter is the small letter of itself only. -/
theorem toLower_eq_iff {c d : Char} (hd : d.val.toNat < 65) : c.toLower = d ↔ c = d := by
  rcases toLower_cases c with h | ⟨hletter, himage⟩
  · rw [h]
  · constructor <;> rintro rfl <;> omega

/-- What is not an ASCII letter is the capital of itself only. -/
theorem toUpper_eq_iff {c d : Char} (hd : d.val.toNat < 65) : c.toUpper = d ↔ c = d := by
  rcases toUpper_cases c with h | ⟨hletter, himage⟩
  · rw [h]
  · constructor <;> rintro rfl <;> omega

/-- A small letter is its own small letter. -/
theorem toLower_toLower (c : Char) : c.toLower.toLower = c.toLower := by
  rcases toLower_cases c with h | ⟨hletter, himage⟩
  · rw [h, h]
  · rcases toLower_cases c.toLower with h | ⟨hletter', -⟩
    · exact h
    · omega

end ProseLinter.Text
