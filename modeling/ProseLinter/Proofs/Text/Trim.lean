import Mathlib.Data.List.DropRight
import ProseLinter.Text.Blank

/-!
# Trimming

Trimming takes characters of one kind away at the ends of a text and leaves none of them there.

* `trimEndWhile_eq_iff` : what is left when they are taken away at the end only.
* `IsTrimmed` : a text without the blanks at both ends; `exists_isTrimmed` says that trimming gives
  it.
* `IsTrimmed.exists_eq_append_cons` : a character that is not blank is not taken away.
-/

namespace ProseLinter.Text

variable {p : Char → Bool} {content cs : List Char}

/-- What is left when the characters of a kind at the end are taken away: nothing else is taken away
with them, and no other stands at the end. -/
theorem trimEndWhile_eq_iff :
    trimEndWhile p cs = content ↔
      ∃ ending, cs = content ++ ending ∧ (∀ c ∈ ending, p c = true) ∧
        ∀ c ∈ content.getLast?, p c = false := by
  constructor
  · rintro rfl
    refine ⟨cs.rtakeWhile p, (List.rdropWhile_append_rtakeWhile ..).symm,
      fun c hc => List.mem_rtakeWhile_imp hc, ?_⟩
    intro c hc
    obtain ⟨hne, hlast⟩ := List.mem_getLast?_eq_getLast hc
    rw [hlast]
    exact Bool.eq_false_iff.2 (List.rdropWhile_last_not p cs hne)
  · rintro ⟨ending, rfl, hending, hcontent⟩
    have hdrop : content.reverse.dropWhile p = content.reverse := by
      cases hreverse : content.reverse with
      | nil => rfl
      | cons c rest =>
        have hlast : c ∈ content.getLast? := by
          rw [← List.head?_reverse, hreverse]
          rfl
        exact List.dropWhile_cons_of_neg (by simp [hcontent c hlast])
    rw [trimEndWhile, List.reverse_append, List.dropWhile_append_of_pos, hdrop,
      List.reverse_reverse]
    intro c hc
    exact hending c (List.mem_reverse.1 hc)

/-- Trimming takes away an ending of such characters. -/
theorem exists_eq_trimEndWhile_append (p : Char → Bool) (cs : List Char) :
    ∃ ending, cs = trimEndWhile p cs ++ ending ∧ (∀ c ∈ ending, p c = true) ∧
      ∀ c ∈ (trimEndWhile p cs).getLast?, p c = false :=
  trimEndWhile_eq_iff.1 rfl

/-- A character of a text that begins with `content` stands in it, if it does not stand behind. -/
theorem exists_eq_append_cons {c : Char} {front back ending : List Char}
    (h : front ++ c :: back = content ++ ending) (hc : c ∉ ending) :
    ∃ between, content = front ++ c :: between := by
  rcases List.append_eq_append_iff.1 h with ⟨more, rfl, hmore⟩ | ⟨more, rfl, rfl⟩
  · cases more with
    | nil =>
      rw [List.nil_append] at hmore
      exact absurd (hmore ▸ List.mem_cons_self) hc
    | cons d more =>
      obtain ⟨rfl, -⟩ := List.cons.inj hmore
      exact ⟨more, rfl⟩
  · exact absurd (List.mem_append_right _ List.mem_cons_self) hc

/-- A character of a text that ends with `content` stands in it, if it does not stand before. -/
theorem exists_eq_append_of_not_mem {c : Char} {front back lead : List Char}
    (h : lead ++ content = front ++ c :: back) (hc : c ∉ lead) :
    ∃ between, front = lead ++ between ∧ content = between ++ c :: back := by
  rcases List.append_eq_append_iff.1 h with ⟨more, rfl, hmore⟩ | ⟨more, rfl, hmore⟩
  · exact ⟨more, rfl, hmore⟩
  · cases more with
    | nil => exact ⟨[], by rw [List.append_nil, List.append_nil], hmore.symm⟩
    | cons d more =>
      obtain ⟨rfl, -⟩ := List.cons.inj hmore
      exact absurd (List.mem_append_right _ List.mem_cons_self) hc

/-- A text without the blanks at its ends: `lead` are those at the start, and `trail` those at the
end. -/
structure IsTrimmed (cs lead content trail : List Char) : Prop where
  eq_append : cs = lead ++ content ++ trail
  blank_lead : ∀ c ∈ lead, isBlank c = true
  blank_trail : ∀ c ∈ trail, isBlank c = true
  head_not_blank : ∀ c ∈ content.head?, isBlank c = false
  last_not_blank : ∀ c ∈ content.getLast?, isBlank c = false

/-- Trimming takes the blanks away at both ends. -/
theorem exists_isTrimmed (cs : List Char) :
    ∃ trail, IsTrimmed cs (cs.takeWhile isBlank) (trim cs) trail := by
  obtain ⟨trail, htrail, hblank, hlast⟩ := exists_eq_trimEndWhile_append isBlank (trimStart cs)
  refine ⟨trail, ?_, fun c hc => List.mem_takeWhile_imp hc, hblank, ?_, hlast⟩
  · change cs = cs.takeWhile isBlank ++ trimEndWhile isBlank (trimStart cs) ++ trail
    rw [List.append_assoc, ← htrail, trimStart_append]
  · -- What is left of a text begins as the text does without the blanks at its start.
    intro c hc
    have hhead : (trimEndWhile isBlank (trimStart cs)).head? = some c := hc
    have hstart : (trimStart cs).head? = some c := by
      rw [htrail, List.head?_append, hhead]
      rfl
    have hnot := List.head?_dropWhile_not isBlank cs
    rw [show cs.dropWhile isBlank = trimStart cs from rfl, hstart] at hnot
    exact hnot

namespace IsTrimmed

variable {lead trail : List Char}

/-- Only a text of blanks has nothing left. -/
theorem eq_nil_iff (h : IsTrimmed cs lead content trail) :
    content = [] ↔ ∀ c ∈ cs, isBlank c = true := by
  rw [h.eq_append]
  constructor
  · rintro rfl c hc
    rw [List.append_nil] at hc
    rcases List.mem_append.1 hc with hc | hc
    · exact h.blank_lead c hc
    · exact h.blank_trail c hc
  · intro hblank
    rw [List.eq_nil_iff_forall_not_mem]
    intro d hd
    cases content with
    | nil => exact absurd hd List.not_mem_nil
    | cons c content =>
      have hc := hblank c (by simp)
      rw [h.head_not_blank c rfl] at hc
      cases hc

/-- A character that is not blank is not taken away. -/
theorem exists_eq_append_cons (h : IsTrimmed cs lead content trail) {c : Char}
    {front back : List Char} (hcs : cs = front ++ c :: back) (hc : isBlank c = false) :
    ∃ left right, front = lead ++ left ∧ content = left ++ c :: right := by
  have hlead : c ∉ lead := fun hmem => by simp [h.blank_lead c hmem] at hc
  have htrail : c ∉ trail := fun hmem => by simp [h.blank_trail c hmem] at hc
  obtain ⟨right, hright⟩ := Text.exists_eq_append_cons (hcs.symm.trans h.eq_append) htrail
  obtain ⟨left, hfront, hcontent⟩ := exists_eq_append_of_not_mem hright hlead
  exact ⟨left, right, hfront, hcontent⟩

end IsTrimmed

end ProseLinter.Text
