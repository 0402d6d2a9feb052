import Mathlib
import ProseLinter.Report.Result

/-!
# Totals

A summary counts the messages of all results at once. It is the sum of what the single results
count, so neither the order of the results nor that of their messages matters, and there are errors
in it exactly when some result has one.

* `Summary.ofResults_eq` : the totals are sums over the results.
* `Summary.ofResults_append` : the summary of two lists of results.
* `Rearranged` : the same results and messages in another order.
* `Summary.errors_pos_iff` : the number of errors and the verdict.
-/

namespace ProseLinter

variable {results others : List FileResult}

/-- The results in another order, and the messages of each of them too. -/
def Rearranged (results others : List FileResult) : Prop :=
  ∃ middle, results.Perm middle ∧
    List.Forall₂ (fun r s => r.filePath = s.filePath ∧ r.messages.Perm s.messages) middle others

/-! ### One result -/

namespace FileResult

variable {r s : FileResult}

/-- Every message is an error, a warning or an information. -/
theorem length_messages (r : FileResult) :
    r.messages.length = r.count .error + r.count .warning + r.count .info := by
  simp only [count]
  induction r.messages with
  | nil => rfl
  | cons m messages ih =>
    rw [List.length_cons, ih, List.countP_cons, List.countP_cons, List.countP_cons]
    cases m.severity <;> simp <;> omega

theorem count_of_perm (h : r.messages.Perm s.messages) (severity : Severity) :
    r.count severity = s.count severity :=
  h.countP_eq _

theorem count_error_pos_iff : 0 < r.count .error ↔ r.hasErrors = true := by
  rw [count, List.countP_pos_iff, hasErrors, List.any_eq_true]
  rfl

end FileResult

/-! ### All results -/

namespace Summary

/-- Summaries are added number by number. -/
instance : Add Summary where
  add s t := ⟨s.problems + t.problems, s.errors + t.errors, s.warnings + t.warnings⟩

/-- The numbers in a summary are sums over the results. -/
theorem ofResults_eq (results : List FileResult) :
    ofResults results =
      ⟨(results.map (·.messages.length)).sum, (results.map (·.count .error)).sum,
        (results.map (·.count .warning)).sum⟩ := by
  have hfold (p e w : Nat) :
      results.foldl (fun s r => Summary.mk (s.problems + r.messages.length)
        (s.errors + r.count .error) (s.warnings + r.count .warning)) ⟨p, e, w⟩ =
      ⟨p + (results.map (·.messages.length)).sum, e + (results.map (·.count .error)).sum,
        w + (results.map (·.count .warning)).sum⟩ := by
    induction results generalizing p e w with
    | nil => rfl
    | cons r results ih =>
      rw [List.foldl_cons, ih]
      simp only [List.map_cons, List.sum_cons, Nat.add_assoc]
  rw [ofResults, hfold]
  simp only [Nat.zero_add]

theorem ofResults_append (results others : List FileResult) :
    ofResults (results ++ others) = ofResults results + ofResults others := by
  rw [ofResults_eq, ofResults_eq, ofResults_eq]
  simp only [List.map_append, List.sum_append]
  rfl

/-- What is counted in the single results is counted in any order. -/
theorem sum_map_of_rearranged {count : FileResult → Nat} (h : Rearranged results others)
    (hcount : ∀ r s : FileResult, r.messages.Perm s.messages → count r = count s) :
    (results.map count).sum = (others.map count).sum := by
  obtain ⟨middle, hperm, hforall⟩ := h
  have hmiddle : middle.map count = others.map count := by
    rw [← List.forall₂_eq_eq_eq, List.forall₂_map_left_iff, List.forall₂_map_right_iff]
    exact hforall.imp fun r s hrs => hcount r s hrs.2
  rw [← hmiddle]
  exact (hperm.map count).sum_eq

theorem ofResults_of_rearranged (h : Rearranged results others) :
    ofResults results = ofResults others := by
  rw [ofResults_eq, ofResults_eq, sum_map_of_rearranged h fun _ _ hrs => hrs.length_eq,
    sum_map_of_rearranged h fun _ _ hrs => FileResult.count_of_perm hrs .error,
    sum_map_of_rearranged h fun _ _ hrs => FileResult.count_of_perm hrs .warning]

/-- Information is counted in the number of all messages only. -/
theorem problems_eq (results : List FileResult) :
    (ofResults results).problems =
      (ofResults results).errors + (ofResults results).warnings +
        (results.map (·.count .info)).sum := by
  simp only [ofResults_eq, ← List.sum_map_add]
  exact congrArg List.sum (List.map_congr_left fun r _ => r.length_messages)

/-- There are errors in a summary exactly if some result has one. -/
theorem errors_pos_iff (results : List FileResult) :
    0 < (ofResults results).errors ↔ ∃ r ∈ results, r.hasErrors = true := by
  rw [ofResults_eq, List.sum_pos_iff_exists_pos_nat]
  simp [FileResult.count_error_pos_iff]

end Summary

theorem hasErrorResults_iff_errors_pos (results : List FileResult) :
    hasErrorResults results = true ↔ 0 < (Summary.ofResults results).errors := by
  rw [Summary.errors_pos_iff, hasErrorResults, List.any_eq_true]

end ProseLinter
