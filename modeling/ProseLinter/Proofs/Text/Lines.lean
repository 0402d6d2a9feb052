import ProseLinter.Proofs.Text.Slice
import ProseLinter.Text.Blank
import ProseLinter.Text.Quoted
import ProseLinter.Text.Search
import ProseLinter.Text.Split

/-!
# Lines

A text that stands on one line has no newline. What is made of such texts stands on one line too,
and texts that do are the lines of the text that they make up, each ended by a newline.

* `splitOn_flatMap` : the lines of a text.
* `count_flatMap_le_iff` and `length_splitOn` : how many newlines and parts there are.
* `oneLine_quoted`, `not_mem_replaceAll` : texts that are made of others.
-/

namespace ProseLinter.Text

/-! ### Lines of a text -/

/-- There is one part more than there are separators. -/
theorem length_splitOn (separator : Char) (cs : List Char) :
    (splitOn separator cs).length = cs.count separator + 1 := by
  induction cs with
  | nil => rfl
  | cons c cs ih =>
    rw [splitOn, List.count_cons]
    split
    · rw [List.length_cons, ih]
    · cases h : splitOn separator cs with
      | nil => exact absurd h (splitOn_ne_nil separator cs)
      | cons part parts => simpa [h] using ih

/-- Lines that are ended by a newline each are parts of the text. -/
theorem splitOn_flatMap {lines : List (List Char)} (h : ∀ l ∈ lines, '\n' ∉ l) (rest : List Char) :
    splitOn '\n' (lines.flatMap (· ++ ['\n']) ++ rest) = lines ++ splitOn '\n' rest := by
  induction lines with
  | nil => rfl
  | cons l lines ih =>
    rw [List.forall_mem_cons] at h
    rw [List.flatMap_cons, List.append_assoc, List.append_assoc, List.singleton_append,
      splitOn_append h.1, ih h.2, List.cons_append]

/-- Every line is ended by a newline, and there are no more of them exactly when no line has one of
its own. -/
theorem count_flatMap_le_iff (lines : List (List Char)) :
    lines.length ≤ (lines.flatMap (· ++ ['\n'])).count '\n' ∧
      ((lines.flatMap (· ++ ['\n'])).count '\n' ≤ lines.length ↔ ∀ l ∈ lines, '\n' ∉ l) := by
  induction lines with
  | nil => simp
  | cons l lines ih =>
    obtain ⟨hle, hiff⟩ := ih
    rw [List.flatMap_cons, List.append_assoc, List.count_append, List.count_append,
      List.count_singleton_self, List.length_cons, List.forall_mem_cons, ← hiff,
      ← List.count_eq_zero]
    omega

/-! ### Texts on one line -/

/-- A text without a newline. -/
def OneLine (s : String) : Prop :=
  '\n' ∉ s.toList

instance (s : String) : Decidable (OneLine s) :=
  inferInstanceAs (Decidable ('\n' ∉ s.toList))

@[simp]
theorem oneLine_append (s t : String) : OneLine (s ++ t) ↔ OneLine s ∧ OneLine t := by
  simp [OneLine, not_or]

@[simp]
theorem oneLine_ofList {cs : List Char} : OneLine (String.ofList cs) ↔ '\n' ∉ cs := by
  rw [OneLine, String.toList_ofList]

/-- No digit is a newline. -/
theorem newline_not_mem_toDigits {base : Nat} (h : 1 < base) (n : Nat) :
    '\n' ∉ Nat.toDigits base n := by
  induction n using Nat.strongRecOn with
  | ind n ih =>
    rcases Nat.lt_or_ge n base with hlt | hle
    · rw [Nat.toDigits_of_lt_base hlt]
      simp
    · rw [Nat.toDigits_of_base_le h hle, List.mem_append, not_or]
      exact ⟨ih _ (Nat.div_lt_self (by omega) h), by simp⟩

@[simp]
theorem oneLine_toString (n : Nat) : OneLine (toString n) := by
  rw [Nat.toString_eq_ofList_toDigits, oneLine_ofList]
  exact newline_not_mem_toDigits (by decide) n

@[simp]
theorem oneLine_toString_int (n : Int) : OneLine (toString n) := by
  have hrepr (m : Nat) : OneLine m.repr := oneLine_toString m
  rw [Int.toString_eq_repr, Int.repr_eq_if]
  split
  · exact hrepr _
  · exact (oneLine_append _ _).2 ⟨by decide, hrepr _⟩

/-- A newline is quoted as two other characters. -/
theorem newline_not_mem_quoteChar (c : Char) : '\n' ∉ quoteChar c := by
  by_cases hn : c = '\n'
  · rw [hn]
    decide
  · have hc : '\n' ≠ c := Ne.symm hn
    have hdigits := newline_not_mem_toDigits (show 1 < 16 by decide) c.toNat
    unfold quoteChar
    repeat' split
    all_goals simp [hc, hdigits]

@[simp]
theorem oneLine_quoted (s : String) : OneLine (quoted s) := by
  rw [quoted, oneLine_ofList]
  simp [newline_not_mem_quoteChar]

/-- Trimming a text adds no character. -/
theorem not_mem_trim {c : Char} {cs : List Char} (h : c ∉ cs) : c ∉ trim cs := by
  intro hc
  rw [trim, trimEnd, trimEndWhile, List.mem_reverse] at hc
  have hstart := List.mem_reverse.1 ((List.dropWhile_sublist _).subset hc)
  exact h ((List.dropWhile_sublist _).subset hstart)

theorem newline_mem_asciiUpper_iff {cs : List Char} : '\n' ∈ asciiUpper cs ↔ '\n' ∈ cs := by
  simp [asciiUpper, toUpper_eq_iff (d := '\n') (by decide)]

theorem newline_mem_asciiLower_iff {cs : List Char} : '\n' ∈ asciiLower cs ↔ '\n' ∈ cs := by
  simp [asciiLower, toLower_eq_iff (d := '\n') (by decide)]

/-- What a text is replaced by brings all the characters that were not there before. -/
theorem not_mem_replaceAll {c : Char} {needle image text : List Char} (himage : c ∉ image)
    (htext : c ∉ text) : c ∉ replaceAll needle image text := by
  have hfrom (skip : Nat) : c ∉ replaceFrom needle image skip text := by
    induction text generalizing skip with
    | nil => exact List.not_mem_nil
    | cons d text ih =>
      rw [List.mem_cons, not_or] at htext
      cases skip with
      | succ skip => exact ih htext.2 skip
      | zero =>
        rw [replaceFrom]
        split
        · rw [List.mem_append, not_or]
          exact ⟨himage, ih htext.2 _⟩
        · rw [List.mem_cons, not_or]
          exact ⟨htext.1, ih htext.2 _⟩
  exact hfrom 0

end ProseLinter.Text
