import ProseLinter.Text.Slice

/-!
# Occurrences of a text in another

The occurrences of a needle are found from left to right and do not overlap: the search goes on
after the end of an occurrence. The empty needle occurs at every character boundary.

* `occurrences` gives the byte offsets of the occurrences.
* `slice?_of_mem_occurrences` : the text at an occurrence is the needle.
* `replaceAll` writes another text in the place of every occurrence.
-/

namespace ProseLinter.Text

/-- The offsets of the occurrences in the rest of a text that begins at offset `at`, after the
next `skip` characters, which belong to an occurrence already found. -/
def occurrencesFrom (needle : List Char) (start skip : Nat) : List Char → List Nat
  | [] => if needle.isEmpty then [start] else []
  | c :: cs =>
    match skip with
    | skip + 1 => occurrencesFrom needle (start + c.utf8Size) skip cs
    | 0 =>
      if needle.isPrefixOf (c :: cs) then
        start :: occurrencesFrom needle (start + c.utf8Size) (needle.length - 1) cs
      else occurrencesFrom needle (start + c.utf8Size) 0 cs

/-- The byte offsets of the occurrences of a needle, from left to right and without overlaps. -/
def occurrences (needle text : List Char) : List Nat :=
  occurrencesFrom needle 0 0 text

/-- An offset that is found is that of a part of the text which the needle follows. -/
theorem exists_of_mem_occurrencesFrom {needle cs : List Char} {start skip offset : Nat}
    (h : offset ∈ occurrencesFrom needle start skip cs) :
    ∃ before after, cs = before ++ needle ++ after ∧ offset = start + byteLength before := by
  induction cs generalizing start skip with
  | nil =>
    rw [occurrencesFrom] at h
    split at h
    · obtain rfl : offset = start := by simpa using h
      exact ⟨[], [], by simp_all, by simp⟩
    · simp at h
  | cons c cs ih =>
    have later {skip : Nat} (h : offset ∈ occurrencesFrom needle (start + c.utf8Size) skip cs) :
        ∃ before after, c :: cs = before ++ needle ++ after ∧
          offset = start + byteLength before := by
      obtain ⟨before, after, rfl, rfl⟩ := ih h
      exact ⟨c :: before, after, by simp, by simp [Nat.add_assoc]⟩
    cases skip with
    | succ skip => exact later h
    | zero =>
      rw [occurrencesFrom] at h
      split at h
      · rename_i hp
        rcases List.mem_cons.1 h with rfl | h
        · obtain ⟨after, hafter⟩ := List.isPrefixOf_iff_prefix.1 hp
          exact ⟨[], after, by simp [hafter], by simp⟩
        · exact later h
      · exact later h

/-- The text at an occurrence is the needle. -/
theorem slice?_of_mem_occurrences {needle text : List Char} {start : Nat}
    (h : start ∈ occurrences needle text) :
    slice? text start (start + byteLength needle) = some needle := by
  obtain ⟨before, after, rfl, rfl⟩ := exists_of_mem_occurrencesFrom h
  simpa using slice?_append before needle after

/-- Whether the needle occurs anywhere in the text. -/
def contains (needle text : List Char) : Bool :=
  match text with
  | [] => needle.isEmpty
  | _ :: cs => needle.isPrefixOf text || contains needle cs

/-- The rest of a text with the occurrences of the needle replaced, after the next `skip`
characters, which belong to an occurrence already replaced. -/
def replaceFrom (needle image : List Char) (skip : Nat) : List Char → List Char
  | [] => []
  | c :: cs =>
    match skip with
    | skip + 1 => replaceFrom needle image skip cs
    | 0 =>
      if needle.isPrefixOf (c :: cs) then
        image ++ replaceFrom needle image (needle.length - 1) cs
      else c :: replaceFrom needle image 0 cs

/-- The text with every occurrence of a needle that is not empty replaced; what is written in is
not searched again. -/
def replaceAll (needle image text : List Char) : List Char :=
  replaceFrom needle image 0 text

end ProseLinter.Text
