import Mathlib.Data.List.Induction
import Mathlib.Data.List.Sort
import ProseLinter.Config.Basic

/-!
# Lists without repetitions

A list with repetitions is brought into a form without them by keeping the first entry of each kind,
where the entries of one kind are those that are the same in a sense that may be wider than
equality. Paths, for instance, are the same when their components are.

* `ConfigOptions.AreFirsts` : what it means for a list to hold the first entries of another one, in
  their order.
* `ConfigOptions.areFirsts_iff` : only the list that `firstOccurrences` makes does.
* `ConfigOptions.firstOccurrences_of_apart` : a list without repetitions stays as it is.
-/

namespace ProseLinter.ConfigOptions

variable {α : Type} {same : α → α → Bool} {items out out' : List α} {a b : α}

/-- The entries of `out` are the first of each kind among `items`, in the order in which the kinds
come there. -/
structure AreFirsts (same : α → α → Bool) (items out : List α) : Prop where
  /-- An entry is the first item of its kind. -/
  find?_eq : ∀ a ∈ out, items.find? (same a) = some a
  /-- Every item has an entry of its kind. -/
  exists_same : ∀ a ∈ items, ∃ b ∈ out, same b a = true
  /-- What came first comes first. -/
  inOrder : out.Pairwise fun a b => items.findIdx (same a) < items.findIdx (same b)
  /-- No two entries are of one kind. -/
  apart : out.Pairwise fun a b => same a b = false

/-! ### One item more -/

/-- A further item is left out if its kind is there already. -/
theorem firstOccurrences_concat (same : α → α → Bool) (items : List α) (a : α) :
    firstOccurrences same (items ++ [a]) =
      if (firstOccurrences same items).any (same · a) then firstOccurrences same items
      else firstOccurrences same items ++ [a] :=
  List.foldl_concat ..

/-- A list in which no two entries are of one kind stays as it is. -/
theorem firstOccurrences_of_apart (h : items.Pairwise fun a b => same a b = false) :
    firstOccurrences same items = items := by
  induction items using List.reverseRecOn with
  | nil => rfl
  | append_singleton items a ih =>
    rw [List.pairwise_append] at h
    obtain ⟨hitems, -, hlast⟩ := h
    have hnew : items.any (same · a) = false := by
      rw [List.any_eq_false]
      intro b hb
      simp [hlast b hb a (List.mem_singleton_self a)]
    rw [firstOccurrences_concat, ih hitems, hnew]
    rfl

/-! ### The first of each kind -/

section

variable (hsame : Equivalence fun a b : α => same a b = true)

include hsame

/-- Entries of one kind are the same as the same entries. -/
theorem same_eq_of_same (h : same a b = true) : same a = same b := by
  funext c
  rw [Bool.eq_iff_iff]
  exact ⟨hsame.trans (hsame.symm h), hsame.trans h⟩

/-- The entries are known from the items: they are those that come first in their kind. -/
theorem AreFirsts.mem_iff (h : AreFirsts same items out) :
    a ∈ out ↔ items.find? (same a) = some a := by
  refine ⟨h.find?_eq a, fun hfirst => ?_⟩
  obtain ⟨b, hb, hba⟩ := h.exists_same a (List.mem_of_find?_eq_some hfirst)
  -- The entry of the same kind is the first of the kind too.
  have hfirst' := h.find?_eq b hb
  rw [same_eq_of_same hsame hba, hfirst] at hfirst'
  rwa [Option.some.inj hfirst']

/-- There is only one such list. -/
theorem AreFirsts.unique (h : AreFirsts same items out) (h' : AreFirsts same items out') :
    out = out' := by
  have hirrefl : Std.Irrefl fun a b : α => items.findIdx (same a) < items.findIdx (same b) :=
    ⟨fun a => Nat.lt_irrefl _⟩
  have htrans : IsTrans α fun a b => items.findIdx (same a) < items.findIdx (same b) :=
    ⟨fun _ _ _ => Nat.lt_trans⟩
  apply h.inOrder.eq_of_mem_iff h'.inOrder
  intro a
  rw [h.mem_iff hsame, h'.mem_iff hsame]

/-- An entry has its place among the items. -/
theorem AreFirsts.findIdx_lt (h : AreFirsts same items out) (ha : a ∈ out) :
    items.findIdx (same a) < items.length :=
  List.findIdx_lt_length.2 ⟨a, List.mem_of_find?_eq_some (h.find?_eq a ha), hsame.refl a⟩

/-- A further item does not change the place of an entry. -/
theorem AreFirsts.findIdx_concat (h : AreFirsts same items out) (ha : a ∈ out) (b : α) :
    (items ++ [b]).findIdx (same a) = items.findIdx (same a) := by
  rw [List.findIdx_append, if_pos (h.findIdx_lt hsame ha)]

/-- A further item does not change the order of the entries. -/
theorem AreFirsts.inOrder_concat (h : AreFirsts same items out) (c : α) :
    out.Pairwise fun a b =>
      (items ++ [c]).findIdx (same a) < (items ++ [c]).findIdx (same b) := by
  refine h.inOrder.imp_of_mem fun ha hb hlt => ?_
  rwa [h.findIdx_concat hsame ha, h.findIdx_concat hsame hb]

omit hsame in
/-- A further item does not come before the first of its kind. -/
theorem AreFirsts.find?_concat (h : AreFirsts same items out) (ha : a ∈ out) (b : α) :
    (items ++ [b]).find? (same a) = some a := by
  rw [List.find?_append, h.find?_eq a ha]
  rfl

/-- An item of a kind that is there already needs no entry. -/
theorem AreFirsts.concat_of_known (h : AreFirsts same items out) (hb : b ∈ out)
    (hba : same b a = true) : AreFirsts same (items ++ [a]) out where
  find?_eq c hc := h.find?_concat hc a
  exists_same c hc := by
    rcases List.mem_append.1 hc with hc | hc
    · exact h.exists_same c hc
    · obtain rfl := List.mem_singleton.1 hc
      exact ⟨b, hb, hba⟩
  inOrder := h.inOrder_concat hsame a
  apart := h.apart

/-- An item of a new kind is the last entry. -/
theorem AreFirsts.concat_of_new (h : AreFirsts same items out)
    (hnew : ∀ b ∈ out, same b a = false) : AreFirsts same (items ++ [a]) (out ++ [a]) := by
  -- No item before is of the new kind, for it would have an entry.
  have hnone : ∀ c ∈ items, same a c = false := by
    intro c hc
    obtain ⟨b, hb, hbc⟩ := h.exists_same c hc
    by_contra hac
    have hba : same b a = true := hsame.trans hbc (hsame.symm (by simpa using hac))
    rw [hnew b hb] at hba
    cases hba
  refine ⟨?_, ?_, ?_, ?_⟩
  · intro b hb
    rcases List.mem_append.1 hb with hb | hb
    · exact h.find?_concat hb a
    · obtain rfl := List.mem_singleton.1 hb
      have hskip : items.find? (same b) = none := by
        rw [List.find?_eq_none]
        intro c hc
        simp [hnone c hc]
      rw [List.find?_append, hskip]
      simp [hsame.refl b]
  · intro c hc
    rcases List.mem_append.1 hc with hc | hc
    · obtain ⟨b, hb, hbc⟩ := h.exists_same c hc
      exact ⟨b, List.mem_append_left _ hb, hbc⟩
    · obtain rfl := List.mem_singleton.1 hc
      exact ⟨c, List.mem_append_right _ hc, hsame.refl c⟩
  · have hlast : (items ++ [a]).findIdx (same a) = items.length := by
      have hlength : items.findIdx (same a) = items.length := List.findIdx_eq_length.2 hnone
      rw [List.findIdx_append, if_neg (by omega)]
      simp [hsame.refl a]
    rw [List.pairwise_append]
    refine ⟨h.inOrder_concat hsame a, List.pairwise_singleton .., ?_⟩
    intro b hb c hc
    obtain rfl := List.mem_singleton.1 hc
    rw [h.findIdx_concat hsame hb, hlast]
    exact h.findIdx_lt hsame hb
  · rw [List.pairwise_append]
    refine ⟨h.apart, List.pairwise_singleton .., ?_⟩
    intro b hb c hc
    obtain rfl := List.mem_singleton.1 hc
    exact hnew b hb

/-- The list without repetitions holds the first entry of each kind. -/
theorem areFirsts_firstOccurrences (items : List α) :
    AreFirsts same items (firstOccurrences same items) := by
  induction items using List.reverseRecOn with
  | nil => exact ⟨by simp [firstOccurrences], by simp, .nil, .nil⟩
  | append_singleton items a ih =>
    rw [firstOccurrences_concat]
    by_cases hany : (firstOccurrences same items).any (same · a)
    · obtain ⟨b, hb, hba⟩ := List.any_eq_true.1 hany
      rw [if_pos hany]
      exact ih.concat_of_known hsame hb hba
    · rw [if_neg hany]
      exact ih.concat_of_new hsame (by simpa using hany)

/-- That the entries are the first of each kind determines the list. -/
theorem areFirsts_iff : AreFirsts same items out ↔ out = firstOccurrences same items := by
  constructor
  · exact fun h => h.unique hsame (areFirsts_firstOccurrences hsame items)
  · rintro rfl
    exact areFirsts_firstOccurrences hsame items

/-- Keeping the first of each kind a second time changes nothing. -/
theorem firstOccurrences_firstOccurrences (items : List α) :
    firstOccurrences same (firstOccurrences same items) = firstOccurrences same items :=
  firstOccurrences_of_apart (areFirsts_firstOccurrences hsame items).apart

end

/-! ### Kinds of one entry -/

/-- Equality is a way to be the same. -/
theorem equivalence_beq [BEq α] [LawfulBEq α] : Equivalence fun a b : α => (a == b) = true where
  refl := beq_self_eq_true
  symm h := by rwa [BEq.comm]
  trans := BEq.trans

/-- Leaving repetitions out of a list leaves its members. -/
theorem mem_firstOccurrences {items : List String} {x : String} :
    x ∈ firstOccurrences (· == ·) items ↔ x ∈ items := by
  have h := areFirsts_firstOccurrences equivalence_beq items
  constructor
  · intro hx
    exact List.mem_of_find?_eq_some (h.find?_eq x hx)
  · intro hx
    obtain ⟨y, hy, hyx⟩ := h.exists_same x hx
    rwa [beq_iff_eq.1 hyx] at hy

end ProseLinter.ConfigOptions
