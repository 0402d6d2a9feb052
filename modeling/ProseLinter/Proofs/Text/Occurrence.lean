import Mathlib.Data.List.Basic
import ProseLinter.Proofs.Text.Piece
import ProseLinter.Text.Search

/-!
# Occurrences from left to right

A search takes the first occurrence in a text and goes on behind it. What it finds in a text whose
characters were replaced by others of the same size are the parts of the text that were replaced by
the needle.

* `Greedy` : the parts of a text that are taken so; `Greedy.unique` says that there is one way only.
* `exists_greedy` : the occurrences in the image of a text.
* `mem_occurrencesFrom_nil_iff` : those of the empty needle, for which there is no first part.
* `replaceAll_eq` : a text in which the occurrences are replaced.
-/

namespace ProseLinter.Text

variable {needle image cs before after : List Char} {offset : Nat}

/-! ### The first occurrence -/

/-- A needle stands behind `before`, and nowhere earlier. -/
def IsFirst (needle before after : List Char) : Prop :=
  ∀ front back, before ++ needle ++ after = front ++ needle ++ back → before.length ≤ front.length

/-- A text in which the needle occurs has a first occurrence. -/
theorem exists_isFirst (h : needle <:+: cs) :
    ∃ before after, cs = before ++ needle ++ after ∧ IsFirst needle before after := by
  induction cs with
  | nil =>
    obtain rfl := List.infix_nil.1 h
    exact ⟨[], [], rfl, fun front _ _ => Nat.zero_le front.length⟩
  | cons c cs ih =>
    by_cases hhere : needle <+: c :: cs
    · obtain ⟨after, hafter⟩ := hhere
      exact ⟨[], after, hafter.symm, fun front _ _ => Nat.zero_le front.length⟩
    · -- Every occurrence is behind the first character.
      obtain hhere' | hlater := List.infix_cons_iff.1 h
      · exact absurd hhere' hhere
      · obtain ⟨before, after, rfl, hfirst⟩ := ih hlater
        refine ⟨c :: before, after, rfl, ?_⟩
        intro front back heq
        cases front with
        | nil => exact absurd ⟨back, heq.symm⟩ hhere
        | cons d front =>
          have htail := hfirst front back (List.cons.inj heq).2
          exact Nat.succ_le_succ htail

/-- Before the first occurrence of a needle that is not empty there is none. -/
theorem IsFirst.not_infix (h : IsFirst needle before after) (hne : needle ≠ []) :
    ¬ needle <:+: before := by
  rintro ⟨front, back, rfl⟩
  have hle := h front (back ++ needle ++ after) (by simp only [List.append_assoc])
  have hpos := List.length_pos_iff.2 hne
  simp only [List.length_append] at hle
  omega

/-- What follows the first character, when the first occurrence is behind it. -/
theorem IsFirst.tail {c : Char} (h : IsFirst needle (c :: before) after) :
    IsFirst needle before after := by
  intro front back heq
  exact Nat.le_of_succ_le_succ (h (c :: front) back (congrArg (c :: ·) heq))

theorem IsFirst.not_isPrefixOf {c : Char} (h : IsFirst needle (c :: before) after) :
    needle.isPrefixOf (c :: before ++ needle ++ after) = false := by
  rw [Bool.eq_false_iff]
  intro hprefix
  obtain ⟨back, hback⟩ := List.isPrefixOf_iff_prefix.1 hprefix
  exact absurd (h [] back hback.symm) (Nat.not_succ_le_zero _)

/-! ### Searching -/

/-- The characters of an occurrence are passed over. -/
theorem occurrencesFrom_skip (needle part after : List Char) (offset : Nat) :
    occurrencesFrom needle offset part.length (part ++ after) =
      occurrencesFrom needle (offset + byteLength part) 0 after := by
  induction part generalizing offset with
  | nil => rfl
  | cons c part ih =>
    rw [List.length_cons, List.cons_append, occurrencesFrom, ih, byteLength_cons, Nat.add_assoc]

/-- The search finds the first occurrence, and goes on behind it. -/
theorem occurrencesFrom_of_isFirst (h : IsFirst needle before after) (hne : needle ≠ [])
    (offset : Nat) :
    occurrencesFrom needle offset 0 (before ++ needle ++ after) =
      (offset + byteLength before) ::
        occurrencesFrom needle (offset + byteLength before + byteLength needle) 0 after := by
  induction before generalizing offset with
  | nil =>
    cases needle with
    | nil => exact absurd rfl hne
    | cons c needle =>
      -- The needle begins here, and its other characters are passed over.
      have hprefix : (c :: needle).isPrefixOf (c :: (needle ++ after)) = true :=
        List.isPrefixOf_iff_prefix.2 ⟨after, rfl⟩
      rw [List.nil_append, List.cons_append, occurrencesFrom, if_pos hprefix,
        List.length_cons, Nat.add_sub_cancel, occurrencesFrom_skip, byteLength_nil, byteLength_cons,
        Nat.add_zero, Nat.add_assoc]
  | cons c before ih =>
    -- An occurrence here would be before the first one.
    have hnot := h.not_isPrefixOf
    rw [List.cons_append, List.cons_append] at hnot ⊢
    rw [occurrencesFrom, if_neg (Bool.eq_false_iff.1 hnot), ih h.tail, byteLength_cons,
      Nat.add_assoc offset]

/-- There is nothing to be found where the needle does not occur. -/
theorem occurrencesFrom_of_not_infix (h : ¬ needle <:+: cs) (offset : Nat) :
    occurrencesFrom needle offset 0 cs = [] := by
  rw [List.eq_nil_iff_forall_not_mem]
  intro start hstart
  obtain ⟨front, back, rfl, -⟩ := exists_of_mem_occurrencesFrom hstart
  exact h ⟨front, back, rfl⟩

/-- The parts of a text, which begins at an offset, that are taken from left to right: the first one
of a kind, and then those in what follows it. -/
inductive Greedy (Is : List Char → Prop) : Nat → List Char → List Piece → Prop
  | none {offset : Nat} {text : List Char}
      (h : ∀ front part back, text = front ++ part ++ back → ¬ Is part) : Greedy Is offset text []
  | next {offset : Nat} {before part after : List Char} {pieces : List Piece} (hpart : Is part)
      (hfirst : ∀ front other back, before ++ part ++ after = front ++ other ++ back → Is other →
        before.length ≤ front.length)
      (hrest : Greedy Is (offset + byteLength before + byteLength part) after pieces) :
      Greedy Is offset (before ++ part ++ after) (⟨offset + byteLength before, part⟩ :: pieces)

namespace Greedy

variable {Is : List Char → Prop} {text : List Char} {pieces : List Piece}

/-- Where all parts of the kind have the same number of characters, there is one way only to take
them from left to right. -/
theorem unique (hlength : ∀ part other, Is part → Is other → part.length = other.length)
    (h : Greedy Is offset text pieces) {pieces' : List Piece} (h' : Greedy Is offset text pieces') :
    pieces = pieces' := by
  induction h generalizing pieces' with
  | none h =>
    cases h' with
    | none => rfl
    | next hpart => exact absurd hpart (h _ _ _ rfl)
  | @next offset before part after pieces hpart hfirst hrest ih =>
    generalize htext : before ++ part ++ after = text at h'
    cases h' with
    | none h' => exact absurd hpart (h' _ _ _ htext.symm)
    | @next _ before' part' after' pieces' hpart' hfirst' hrest' =>
      -- Neither of the first parts stands before the other.
      have hle := hfirst _ _ _ htext hpart'
      have hle' := hfirst' _ _ _ htext.symm hpart
      rw [List.append_assoc, List.append_assoc] at htext
      obtain ⟨rfl, hbehind⟩ := List.append_inj htext (Nat.le_antisymm hle hle')
      obtain ⟨rfl, rfl⟩ := List.append_inj hbehind (hlength _ _ hpart hpart')
      rw [ih hrest']

/-- A part that is taken stands in the text at its offset, and is of the kind. -/
theorem exists_of_mem (h : Greedy Is offset text pieces) {p : Piece} (hp : p ∈ pieces) :
    Is p.chars ∧ ∃ front back, text = front ++ p.chars ++ back ∧
      p.start = offset + byteLength front := by
  induction h with
  | none => exact absurd hp List.not_mem_nil
  | @next offset before part after pieces hpart hfirst hrest ih =>
    rcases List.mem_cons.1 hp with rfl | hp
    · exact ⟨hpart, before, after, rfl, rfl⟩
    · obtain ⟨his, front, back, rfl, hstart⟩ := ih hp
      refine ⟨his, before ++ part ++ front, back, by simp only [List.append_assoc], ?_⟩
      rw [hstart, byteLength_append, byteLength_append]
      omega

/-- A part that is taken is the slice of the text between its offsets. -/
theorem slice?_of_mem (h : Greedy Is 0 text pieces) {p : Piece} (hp : p ∈ pieces) :
    slice? text p.start p.stop = some p.chars := by
  obtain ⟨-, front, back, rfl, hstart⟩ := h.exists_of_mem hp
  rw [Piece.stop, hstart, Nat.zero_add]
  exact slice?_append ..

/-- Parts that are taken come one behind the other. -/
theorem pairwise (h : Greedy Is offset text pieces) :
    pieces.Pairwise fun p q => p.stop ≤ q.start := by
  induction h with
  | none => exact .nil
  | @next offset before part after pieces hpart hfirst hrest ih =>
    refine .cons ?_ ih
    intro q hq
    obtain ⟨-, front, back, -, hstart⟩ := hrest.exists_of_mem hq
    simp only [Piece.stop, hstart]
    omega

end Greedy

/-- Searching the image of a text finds the parts of the text whose image is the needle. -/
theorem exists_greedy {f : Char → Char} (hf : ∀ c, (f c).utf8Size = c.utf8Size) (hne : needle ≠ [])
    (offset : Nat) (cs : List Char) :
    ∃ pieces, Greedy (fun part => part.map f = needle) offset cs pieces ∧
      occurrencesFrom needle offset 0 (cs.map f) = pieces.map (·.start) := by
  -- The search goes on behind the first occurrence, where the text is shorter.
  induction hlength : cs.length using Nat.strongRecOn generalizing cs offset with
  | ind n ih =>
    by_cases hoccurs : needle <:+: cs.map f
    · obtain ⟨front, back, hcs, hfirst⟩ := exists_isFirst hoccurs
      -- The text is cut where its image is.
      obtain ⟨before', after, rfl, hbefore', rfl⟩ := List.map_eq_append_iff.1 hcs
      obtain ⟨before, part, rfl, rfl, rfl⟩ := List.map_eq_append_iff.1 hbefore'
      have hpos : 0 < part.length := by
        rw [← List.length_map f]
        exact List.length_pos_iff.2 hne
      obtain ⟨pieces, hpieces, hstarts⟩ := ih after.length
        (by rw [← hlength, List.length_append, List.length_append]; omega)
        (offset + byteLength before + byteLength part) after rfl
      refine ⟨⟨offset + byteLength before, part⟩ :: pieces, .next rfl ?_ hpieces, ?_⟩
      · intro front other back heq hother
        have himage := congrArg (List.map f) heq
        rw [List.map_append, List.map_append, List.map_append, List.map_append, hother] at himage
        have hle := hfirst _ _ himage
        rwa [List.length_map, List.length_map] at hle
      · rw [hcs, occurrencesFrom_of_isFirst hfirst hne, byteLength_map hf, byteLength_map hf,
          hstarts, List.map_cons]
    · -- A part of the text whose image is the needle would show in the image of the text.
      refine ⟨[], .none ?_, occurrencesFrom_of_not_infix hoccurs offset⟩
      rintro front part back rfl rfl
      apply hoccurs
      exact ⟨front.map f, back.map f, by simp only [List.map_append]⟩

/-! ### The empty needle -/

/-- The empty needle occurs between any two characters, and at both ends. -/
theorem mem_occurrencesFrom_nil_iff {start : Nat} :
    start ∈ occurrencesFrom [] offset 0 cs ↔
      ∃ before after, cs = before ++ after ∧ start = offset + byteLength before := by
  constructor
  · intro h
    obtain ⟨before, after, rfl, hstart⟩ := exists_of_mem_occurrencesFrom h
    exact ⟨before, after, by rw [List.append_nil], hstart⟩
  · rintro ⟨before, after, rfl, rfl⟩
    induction before generalizing offset with
    | nil =>
      rw [List.nil_append]
      cases after with
      | nil => exact List.mem_singleton_self offset
      | cons c after => exact List.mem_cons_self
    | cons c before ih =>
      have hlater := @ih (offset + c.utf8Size)
      rw [Nat.add_assoc, ← byteLength_cons] at hlater
      exact List.mem_cons_of_mem offset hlater

/-! ### Containing -/

/-- A text contains a needle if the needle stands somewhere in it. -/
theorem contains_iff : contains needle cs = true ↔ needle <:+: cs := by
  induction cs with
  | nil => rw [contains, List.isEmpty_iff, List.infix_nil]
  | cons c cs ih =>
    rw [contains, Bool.or_eq_true, List.isPrefixOf_iff_prefix, ih, List.infix_cons_iff]

/-! ### Replacing -/

/-- The characters of an occurrence that was replaced are passed over. -/
theorem replaceFrom_skip (needle image part after : List Char) :
    replaceFrom needle image part.length (part ++ after) = replaceFrom needle image 0 after := by
  induction part with
  | nil => rfl
  | cons c part ih => rw [List.length_cons, List.cons_append, replaceFrom, ih]

/-- The first occurrence is replaced, and those behind it. -/
theorem replaceFrom_of_isFirst (h : IsFirst needle before after) (hne : needle ≠ []) :
    replaceFrom needle image 0 (before ++ needle ++ after) =
      before ++ image ++ replaceFrom needle image 0 after := by
  induction before with
  | nil =>
    cases needle with
    | nil => exact absurd rfl hne
    | cons c needle =>
      have hprefix : (c :: needle).isPrefixOf (c :: (needle ++ after)) = true :=
        List.isPrefixOf_iff_prefix.2 ⟨after, rfl⟩
      rw [List.nil_append, List.cons_append, replaceFrom, if_pos hprefix, List.length_cons,
        Nat.add_sub_cancel, replaceFrom_skip, List.nil_append]
  | cons c before ih =>
    have hnot := h.not_isPrefixOf
    rw [List.cons_append, List.cons_append] at hnot ⊢
    rw [replaceFrom, if_neg (Bool.eq_false_iff.1 hnot), ih h.tail]
    rfl

/-- A text in which the needle does not occur stays as it is. -/
theorem replaceFrom_of_not_infix (h : ¬ needle <:+: cs) : replaceFrom needle image 0 cs = cs := by
  induction cs with
  | nil => rfl
  | cons c cs ih =>
    have hnot : ¬ needle.isPrefixOf (c :: cs) = true := by
      intro hprefix
      exact h (List.isPrefixOf_iff_prefix.1 hprefix).isInfix
    rw [replaceFrom, if_neg hnot, ih fun hlater => h (hlater.trans (List.suffix_cons c cs).isInfix)]

/-- A text is cut at the needle into parts in which it does not occur, and these are put together
again with the image between them. -/
theorem replaceAll_eq (hne : needle ≠ []) (image cs : List Char) :
    ∃ parts, parts ≠ [] ∧ (∀ part ∈ parts, ¬ needle <:+: part) ∧ cs = needle.intercalate parts ∧
      replaceAll needle image cs = image.intercalate parts := by
  -- What is left to replace is behind the first occurrence, where the text is shorter.
  induction hlength : cs.length using Nat.strongRecOn generalizing cs with
  | ind n ih =>
    by_cases hoccurs : needle <:+: cs
    · obtain ⟨before, after, rfl, hfirst⟩ := exists_isFirst hoccurs
      have hpos := List.length_pos_iff.2 hne
      obtain ⟨parts, hparts, habsent, hafter, hreplaced⟩ := ih after.length
        (by rw [← hlength, List.length_append, List.length_append]; omega) after rfl
      refine ⟨before :: parts, List.cons_ne_nil _ _, ?_, ?_, ?_⟩
      · exact List.forall_mem_cons.2 ⟨hfirst.not_infix hne, habsent⟩
      · rw [List.intercalate_cons_of_ne_nil hparts, ← hafter, List.append_assoc]
      · rw [List.intercalate_cons_of_ne_nil hparts, ← hreplaced, replaceAll,
          replaceFrom_of_isFirst hfirst hne]
        rfl
    · refine ⟨[cs], List.cons_ne_nil _ _, by simpa using hoccurs, by simp, ?_⟩
      rw [replaceAll, replaceFrom_of_not_infix hoccurs, List.intercalate_singleton]

end ProseLinter.Text
