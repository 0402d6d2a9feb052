/-!
# Parts between separators

A text is cut at every occurrence of a separator, which belongs to no part: there is one part more
than there are separators.

* `splitOn_append` : what stands before the first separator is the first part.
* `intercalate_splitOn` : the parts with separators between them are the text.
* `not_mem_of_mem_splitOn` : no part contains the separator.
-/

namespace ProseLinter.Text

/-- The parts of a text between separators. -/
def splitOn (separator : Char) : List Char → List (List Char)
  | [] => [[]]
  | c :: cs =>
    if c == separator then [] :: splitOn separator cs
    else
      match splitOn separator cs with
      | [] => [[c]]
      | part :: parts => (c :: part) :: parts

theorem splitOn_ne_nil (separator : Char) (cs : List Char) : splitOn separator cs ≠ [] := by
  cases cs with
  | nil => simp [splitOn]
  | cons c cs =>
    rw [splitOn]
    split
    · simp
    · split <;> simp

/-- A text without separators is its only part. -/
theorem splitOn_eq_singleton {separator : Char} {cs : List Char} (h : separator ∉ cs) :
    splitOn separator cs = [cs] := by
  induction cs with
  | nil => rfl
  | cons c cs ih =>
    rw [List.mem_cons, not_or] at h
    obtain ⟨hc, hcs⟩ := h
    rw [splitOn, if_neg (by simpa using Ne.symm hc), ih hcs]

/-- What stands before the first separator is the first part. -/
theorem splitOn_append {separator : Char} {cs : List Char} (h : separator ∉ cs)
    (ds : List Char) : splitOn separator (cs ++ separator :: ds) = cs :: splitOn separator ds := by
  induction cs with
  | nil => simp [splitOn]
  | cons c cs ih =>
    rw [List.mem_cons, not_or] at h
    obtain ⟨hc, hcs⟩ := h
    rw [List.cons_append, splitOn, if_neg (by simpa using Ne.symm hc), ih hcs]

/-- The parts with separators between them are the text. -/
theorem intercalate_splitOn (separator : Char) (cs : List Char) :
    [separator].intercalate (splitOn separator cs) = cs := by
  induction cs with
  | nil => rfl
  | cons c cs ih =>
    have hne := splitOn_ne_nil separator cs
    rw [splitOn]
    split
    · next hc =>
      cases h : splitOn separator cs with
      | nil => exact absurd h hne
      | cons part parts =>
        rw [h] at ih
        rw [List.intercalate_cons_cons, ih]
        simp [eq_of_beq hc]
    · cases h : splitOn separator cs with
      | nil => exact absurd h hne
      | cons part parts =>
        rw [h] at ih
        cases parts with
        | nil => simpa [List.intercalate] using ih
        | cons next parts =>
          rw [List.intercalate_cons_cons] at ih ⊢
          simp [← ih]

/-- No part contains the separator. -/
theorem not_mem_of_mem_splitOn {separator : Char} {cs part : List Char}
    (h : part ∈ splitOn separator cs) : separator ∉ part := by
  induction cs generalizing part with
  | nil => simp_all [splitOn]
  | cons c cs ih =>
    rw [splitOn] at h
    split at h
    · rcases List.mem_cons.mp h with rfl | h
      · simp
      · exact ih h
    · next hc =>
      have hne : separator ≠ c := fun e => hc (by simp [e])
      split at h
      · simp_all
      · next head parts hs =>
        rcases List.mem_cons.mp h with rfl | h
        · have hhead : separator ∉ head := ih (by simp [hs])
          simp [hne, hhead]
        · exact ih (by simp [hs, h])

end ProseLinter.Text
