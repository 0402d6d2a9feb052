import Mathlib.Data.List.TakeWhile
import ProseLinter.Proofs.Text.Slice
import ProseLinter.Report.Template

/-!
# Filling a template in a loop

A template falls into literal parts and places in one way only, and this way does not depend on what
is filled in. The places can be filled by a loop over what is left of the template, which looks for
the next brace and cuts at the byte offset where it is. Here this is done with cuts that may fail:
none of them does, each turn of the loop leaves less of the template, and what the loop writes is
the template with its places filled.

* `Template.FallsInto` : how a template falls into parts, and `Template.fallsInto_iff` : that
  `segments` gives these parts.
* `Template.turn?` : one turn of the loop, and `Template.turn?_of_place` : what it does at a place.
* `Template.fill?_eq` : the loop ends and fills the template.
-/

namespace ProseLinter

/-! ### Looking for a character -/

namespace Text

variable {c : Char} {before : List Char}

/-- The byte offset of the first occurrence of a character. -/
def offsetOf? (c : Char) : List Char → Option Nat
  | [] => none
  | d :: ds => if d == c then some 0 else (offsetOf? c ds).map (d.utf8Size + ·)

theorem offsetOf?_append (h : c ∉ before) (after : List Char) :
    offsetOf? c (before ++ c :: after) = some (byteLength before) := by
  induction before with
  | nil => simp [offsetOf?]
  | cons d before ih =>
    rw [List.mem_cons, not_or] at h
    have hne : (d == c) = false := beq_false_of_ne fun heq => h.1 heq.symm
    rw [List.cons_append, offsetOf?, hne, ih h.2, byteLength_cons]
    rfl

theorem offsetOf?_of_not_mem (h : c ∉ before) : offsetOf? c before = none := by
  induction before with
  | nil => rfl
  | cons d before ih =>
    rw [List.mem_cons, not_or] at h
    have hne : (d == c) = false := beq_false_of_ne fun heq => h.1 heq.symm
    rw [offsetOf?, hne, ih h.2]
    rfl

/-- What stands before and what stands from the first occurrence of a character on. -/
theorem takeWhile_append_cons (h : c ∉ before) (after : List Char) :
    (before ++ c :: after).takeWhile (· != c) = before ∧
      (before ++ c :: after).dropWhile (· != c) = c :: after := by
  have hkept : ∀ d ∈ before, (d != c) = true := by
    intro d hd
    rw [bne_iff_ne]
    rintro rfl
    exact h hd
  constructor
  · rw [List.takeWhile_append_of_pos hkept, List.takeWhile_cons_of_neg (by simp), List.append_nil]
  · rw [List.dropWhile_append_of_pos hkept, List.dropWhile_cons_of_neg (by simp)]

/-- A text without a character stands before it as a whole. -/
theorem takeWhile_of_not_mem (h : c ∉ before) :
    before.takeWhile (· != c) = before ∧ before.dropWhile (· != c) = [] := by
  have hkept : ∀ d ∈ before, (d != c) = true := by
    intro d hd
    rw [bne_iff_ne]
    rintro rfl
    exact h hd
  exact ⟨List.takeWhile_eq_self_iff.2 hkept, List.dropWhile_eq_nil_iff.2 hkept⟩

end Text

namespace Template

open Text

variable {text name rest out : List Char} {parts : List Segment}
  {lookup : String → Option String}

/-! ### The parts of a template -/

/-- How a template falls into parts: a place is what stands between an opening brace and the next
closing one, and all else is literal. If there is no closing brace any more, the opening brace and
what follows it are literal too. -/
inductive FallsInto : List Char → List Segment → Prop where
  | plain {text : List Char} (htext : '\x7b' ∉ text) : FallsInto text [.literal text]
  | unclosed {text rest : List Char} (htext : '\x7b' ∉ text) (hrest : '\x7d' ∉ rest) :
    FallsInto (text ++ '\x7b' :: rest) [.literal text, .literal ('\x7b' :: rest)]
  | place {text name rest : List Char} {parts : List Segment} (htext : '\x7b' ∉ text)
    (hname : '\x7d' ∉ name) (hrest : FallsInto rest parts) :
    FallsInto (text ++ '\x7b' :: (name ++ '\x7d' :: rest))
      (.literal text :: .place name :: parts)

/-- A part as it is written in the template. -/
def Segment.written : Segment → List Char
  | .literal text => text
  | .place name => '\x7b' :: name ++ ['\x7d']

/-- A place that nothing is known for is written as it is in the template. -/
theorem Segment.fill_none (part : Segment) : part.fill (fun _ => none) = part.written := by
  cases part <;> rfl

/-- Nothing of a template is lost. -/
theorem FallsInto.flatMap_written (h : FallsInto text parts) :
    parts.flatMap Segment.written = text := by
  induction h with
  | plain htext => simp [Segment.written]
  | unclosed htext hrest => simp [Segment.written]
  | place htext hname hrest ih => simp [Segment.written, ih]

theorem segments_of_not_mem (htext : '\x7b' ∉ text) : segments text = [.literal text] := by
  obtain ⟨htake, hdrop⟩ := takeWhile_of_not_mem htext
  rw [segments]
  split
  · rw [htake]
  · next hopened => simp [hdrop] at hopened

theorem segments_unclosed (htext : '\x7b' ∉ text) (hrest : '\x7d' ∉ rest) :
    segments (text ++ '\x7b' :: rest) = [.literal text, .literal ('\x7b' :: rest)] := by
  obtain ⟨htake, hdrop⟩ := takeWhile_append_cons htext rest
  obtain ⟨-, hnone⟩ := takeWhile_of_not_mem hrest
  rw [segments]
  split
  · next hopened => simp [hdrop] at hopened
  · next brace after hopened =>
    obtain ⟨rfl, rfl⟩ := List.cons.inj (hdrop.symm.trans hopened)
    split
    · rw [htake]
    · next hclosed => simp [hnone] at hclosed

theorem segments_place (htext : '\x7b' ∉ text) (hname : '\x7d' ∉ name) (rest : List Char) :
    segments (text ++ '\x7b' :: (name ++ '\x7d' :: rest)) =
      .literal text :: .place name :: segments rest := by
  obtain ⟨htake, hdrop⟩ := takeWhile_append_cons htext (name ++ '\x7d' :: rest)
  obtain ⟨htake', hdrop'⟩ := takeWhile_append_cons hname rest
  rw [segments]
  split
  · next hopened => simp [hdrop] at hopened
  · next brace after hopened =>
    obtain ⟨rfl, rfl⟩ := List.cons.inj (hdrop.symm.trans hopened)
    split
    · next hclosed => simp [hdrop'] at hclosed
    · next brace' after' hclosed =>
      obtain ⟨-, rfl⟩ := List.cons.inj (hdrop'.symm.trans hclosed)
      rw [htake, htake']

/-- Every template falls into parts. -/
theorem exists_fallsInto (text : List Char) : ∃ parts, FallsInto text parts := by
  -- What is left behind a place is shorter than the template.
  induction hlength : text.length using Nat.strongRecOn generalizing text with
  | ind n ih =>
    by_cases hopen : '\x7b' ∈ text
    · obtain ⟨before, after, rfl, hbefore⟩ := List.eq_append_cons_of_mem hopen
      by_cases hclose : '\x7d' ∈ after
      · obtain ⟨name, rest, rfl, hname⟩ := List.eq_append_cons_of_mem hclose
        obtain ⟨parts, hparts⟩ := ih rest.length (by simp at hlength; omega) rest rfl
        exact ⟨_, .place hbefore hname hparts⟩
      · exact ⟨_, .unclosed hbefore hclose⟩
    · exact ⟨_, .plain hopen⟩

theorem FallsInto.eq_segments (h : FallsInto text parts) : parts = segments text := by
  induction h with
  | plain htext => rw [segments_of_not_mem htext]
  | unclosed htext hrest => rw [segments_unclosed htext hrest]
  | place htext hname hrest ih => rw [segments_place htext hname, ih]

/-- A template falls into its parts and into no others. -/
theorem fallsInto_iff : FallsInto text parts ↔ parts = segments text := by
  refine ⟨FallsInto.eq_segments, ?_⟩
  rintro rfl
  obtain ⟨parts, hparts⟩ := exists_fallsInto text
  rwa [← hparts.eq_segments]

theorem fallsInto_segments (text : List Char) : FallsInto text (segments text) :=
  fallsInto_iff.2 rfl

/-! ### One turn of the loop -/

/-- What a turn of the loop finds in what is left of a template. -/
inductive Turn where
  /-- There is no place any more, and the text is written as it is. -/
  | last (text : List Char)
  /-- A place with a name behind some text, and what comes after it. -/
  | place (before name rest : List Char)

/-- One turn of the loop; none if a cut is not possible. -/
def turn? (rest : List Char) : Option Turn :=
  match offsetOf? '\x7b' rest with
  | none => some (.last rest)
  | some opened => do
    let before ← takeBytes? rest opened
    let after ← dropBytes? rest (opened + 1)
    match offsetOf? '\x7d' after with
    | none => do
      let tail ← dropBytes? rest opened
      return .last (before ++ tail)
    | some closed => do
      let name ← takeBytes? after closed
      let behind ← dropBytes? after (closed + 1)
      return .place before name behind

theorem turn?_of_not_mem (htext : '\x7b' ∉ text) : turn? text = some (.last text) := by
  rw [turn?, offsetOf?_of_not_mem htext]

/-- A brace takes one byte. -/
theorem dropBytes?_brace {brace : Char} (hbrace : brace.utf8Size = 1) (before after : List Char) :
    dropBytes? (before ++ brace :: after) (byteLength before + 1) = some after := by
  have hcut := dropBytes?_append (before ++ [brace]) after
  simpa [hbrace] using hcut

theorem turn?_of_unclosed (htext : '\x7b' ∉ text) (hrest : '\x7d' ∉ rest) :
    turn? (text ++ '\x7b' :: rest) = some (.last (text ++ '\x7b' :: rest)) := by
  rw [turn?, offsetOf?_append htext]
  simp only [takeBytes?_append, dropBytes?_brace (by decide : '\x7b'.utf8Size = 1),
    Option.bind_eq_bind, Option.bind_some, offsetOf?_of_not_mem hrest, dropBytes?_append]
  rfl

/-- At a place the loop finds its name and goes on behind it. -/
theorem turn?_of_place (htext : '\x7b' ∉ text) (hname : '\x7d' ∉ name) (rest : List Char) :
    turn? (text ++ '\x7b' :: (name ++ '\x7d' :: rest)) = some (.place text name rest) := by
  rw [turn?, offsetOf?_append htext]
  simp only [takeBytes?_append, dropBytes?_brace (by decide : '\x7b'.utf8Size = 1),
    dropBytes?_brace (by decide : '\x7d'.utf8Size = 1), Option.bind_eq_bind, Option.bind_some,
    offsetOf?_append hname]
  rfl

/-- A turn that finds a place leaves less of the template. -/
theorem length_lt_of_turn? {before behind : List Char}
    (h : turn? text = some (.place before name behind)) : behind.length < text.length := by
  obtain ⟨parts, hparts⟩ := exists_fallsInto text
  cases hparts with
  | plain htext =>
    rw [turn?_of_not_mem htext] at h
    cases h
  | unclosed htext hrest =>
    rw [turn?_of_unclosed htext hrest] at h
    cases h
  | place htext hname hrest =>
    rw [turn?_of_place htext hname] at h
    cases h
    simp only [List.length_append, List.length_cons]
    omega

/-! ### The loop -/

/-- The places of what is left of a template filled one after the other, behind what has been
written before; none if a cut is not possible. -/
def fillFrom? (lookup : String → Option String) (out rest : List Char) : Option (List Char) :=
  match _h : turn? rest with
  | none => none
  | some (.last text) => some (out ++ text)
  | some (.place before name behind) =>
    fillFrom? lookup (out ++ before ++ (Segment.place name).fill lookup) behind
termination_by rest.length
decreasing_by exact length_lt_of_turn? _h

/-- The places of a template filled in a loop. -/
def fill? (template : String) (lookup : String → Option String) : Option String :=
  (fillFrom? lookup [] template.toList).map String.ofList

theorem fillFrom?_of_last (h : turn? rest = some (.last text)) (out : List Char) :
    fillFrom? lookup out rest = some (out ++ text) := by
  rw [fillFrom?]
  split <;> simp_all

theorem fillFrom?_of_place {before behind : List Char}
    (h : turn? rest = some (.place before name behind)) (out : List Char) :
    fillFrom? lookup out rest =
      fillFrom? lookup (out ++ before ++ (Segment.place name).fill lookup) behind := by
  rw [fillFrom?]
  split <;> simp_all

/-- The loop writes the parts of what is left of the template behind what it wrote before. -/
theorem fillFrom?_eq (h : FallsInto rest parts) (out : List Char) :
    fillFrom? lookup out rest = some (out ++ parts.flatMap (·.fill lookup)) := by
  induction h generalizing out with
  | plain htext => simp [fillFrom?_of_last (turn?_of_not_mem htext), Segment.fill]
  | unclosed htext hrest =>
    simp [fillFrom?_of_last (turn?_of_unclosed htext hrest), Segment.fill]
  | @place text name rest parts htext hname hrest ih =>
    rw [fillFrom?_of_place (turn?_of_place htext hname rest), ih]
    simp [Segment.fill]

/-- No cut fails, and the loop fills the template. -/
theorem fill?_eq (template : String) (lookup : String → Option String) :
    fill? template lookup = some (fill template lookup) := by
  rw [fill?, fillFrom?_eq (fallsInto_segments _)]
  rfl

end Template

end ProseLinter
