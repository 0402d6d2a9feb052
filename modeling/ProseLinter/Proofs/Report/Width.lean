import ProseLinter.Proofs.Outcome
import ProseLinter.Proofs.Report.LinePerMessage
import ProseLinter.Report.Formatters

/-!
# Formats that cannot pad a column

Of all formats only the stylish one pads texts. It stops exactly when a message has a text, or a
position, that is longer than texts can be padded to; every other format has a report of all
results.

* `Message.Wide` : a message that is too wide for a column.
* `Formatter.exists_stylish_eq_error_iff` : when the stylish format stops.
* `Formatters.exists_eq_error_iff_of_resolve` : when a format that was found by name stops.
-/

namespace ProseLinter

open Formatter

/-- The position or the text of a message is longer than texts can be padded to. -/
def Message.Wide (m : Message) : Prop :=
  widthLimit < (positionText m).length ∨ widthLimit < m.text.length

namespace Formatter

variable {results : List FileResult}

theorem lt_widest_map_iff {α : Type} {n : Nat} {f : α → String} {xs : List α} :
    n < widest (xs.map f) ↔ ∃ x ∈ xs, n < (f x).length := by
  have hfold (k : Nat) : n < (xs.map f).foldl (fun n s => max n s.length) k ↔
      n < k ∨ ∃ x ∈ xs, n < (f x).length := by
    induction xs generalizing k with
    | nil => simp
    | cons x xs ih =>
      have hmax : n < max k (f x).length ↔ n < k ∨ n < (f x).length := by omega
      rw [List.map_cons, List.foldl_cons, ih, hmax, List.exists_mem_cons_iff, or_assoc]
  rw [widest, hfold]
  simp

/-- A block has a column that is too wide exactly if a message is too wide for one. -/
theorem isSome_tooWide?_iff (messages : List Message) :
    (Widths.ofMessages messages).tooWide?.isSome ↔ ∃ m ∈ messages, m.Wide := by
  have hname (m : Message) : ¬ widthLimit < m.severity.name.length := by
    cases m.severity <;> decide
  rw [Widths.tooWide?, Option.isSome_map, List.find?_isSome]
  simp [Widths.ofMessages, lt_widest_map_iff, hname, Message.Wide, and_or_left, exists_or]

theorem exists_stylishBlock_eq_error_iff {r : FileResult} :
    (∃ fault, stylishBlock r = .error fault) ↔ ∃ m ∈ r.messages, m.Wide := by
  rw [← isSome_tooWide?_iff, stylishBlock]
  cases (Widths.ofMessages r.messages).tooWide? <;> simp

/-- The stylish format stops exactly if a message is too wide for a column. -/
theorem exists_stylish_eq_error_iff :
    (∃ fault, stylish results = .error fault) ↔ ∃ r ∈ results, ∃ m ∈ r.messages, m.Wide := by
  constructor
  · rintro ⟨fault, h⟩
    rw [stylish] at h
    split at h
    · cases h
    · rcases eq_error_or_of_bind_eq_error h with h | ⟨blocks, -, h⟩
      · obtain ⟨r, hr, hblock⟩ := exists_eq_error_of_mapM h
        exact ⟨r, (List.mem_filter.1 hr).1, exists_stylishBlock_eq_error_iff.1 ⟨fault, hblock⟩⟩
      · cases h
  · rintro ⟨r, hr, m, hm, hwide⟩
    have hsome : (Summary.ofResults results).problems ≠ 0 := by
      rw [problems_ofResults, Ne, List.length_eq_zero_iff]
      exact List.ne_nil_of_mem (List.mem_flatMap.2 ⟨r, hr, List.mem_map.2 ⟨m, hm, rfl⟩⟩)
    have hwritten : r ∈ results.filter fun r => !r.messages.isEmpty := by
      refine List.mem_filter.2 ⟨hr, ?_⟩
      simpa using List.ne_nil_of_mem hm
    rw [stylish, if_neg (by simpa using hsome)]
    cases hblocks : (results.filter fun r => !r.messages.isEmpty).mapM stylishBlock with
    | error fault => exact ⟨fault, rfl⟩
    | ok blocks =>
      -- All blocks were written, that of the message among them.
      obtain ⟨fault, hfault⟩ := exists_stylishBlock_eq_error_iff.2 ⟨m, hm, hwide⟩
      obtain ⟨block, hblock⟩ := exists_eq_ok_of_mapM hblocks r hwritten
      rw [hfault] at hblock
      cases hblock

end Formatter

/-- A format that is found by name for an engine without registered formats stops exactly if it is
the stylish one and a message is too wide for a column. -/
theorem Formatters.exists_eq_error_iff_of_resolve {files : FileTree} {name : String}
    {base? : Option Path} {format : Formatter} {results : List FileResult}
    (h : Formatters.empty.resolve files name base? = .ok format) :
    (∃ fault, format results = .error fault) ↔
      name = "stylish" ∧ ∃ r ∈ results, ∃ m ∈ r.messages, m.Wide := by
  have hother {report : String} (hname : name ≠ "stylish") (hformat : format results = .ok report) :
      (∃ fault, format results = .error fault) ↔
        name = "stylish" ∧ ∃ r ∈ results, ∃ m ∈ r.messages, m.Wide := by
    rw [hformat]
    simp [hname]
  rw [resolve] at h
  split at h
  · next f hbuiltin =>
    obtain rfl := Except.ok.inj h
    simp only [builtins, List.lookup_cons, List.lookup_nil] at hbuiltin
    split at hbuiltin
    · next hname =>
      obtain rfl := Option.some.inj hbuiltin
      rw [exists_stylish_eq_error_iff]
      simp [eq_of_beq hname]
    · next hname =>
      have hne : name ≠ "stylish" := by simpa using hname
      split at hbuiltin
      · obtain rfl := Option.some.inj hbuiltin
        exact hother hne rfl
      · split at hbuiltin
        · obtain rfl := Option.some.inj hbuiltin
          exact hother hne rfl
        · split at hbuiltin
          · obtain rfl := Option.some.inj hbuiltin
            exact hother hne rfl
          · cases hbuiltin
  · next hbuiltin =>
    have hne : name ≠ "stylish" := by
      rintro rfl
      cases hbuiltin
    -- No format is registered, so it is that of a template, which pads nothing.
    simp only [empty, List.lookup_nil] at h
    split at h
    · next path hpath =>
      obtain ⟨t, -, rfl⟩ := exists_of_map_eq_ok (eq_ok_of_mapError h)
      exact hother hne rfl
    · cases h

end ProseLinter
