import ProseLinter.Proofs.Json.Complaint
import ProseLinter.Proofs.Rule.Search
import ProseLinter.Proofs.Rule.Words

/-!
# What rules write on one line

A message quotes the source: a pattern rule and the rule against todo markers quote what they match.
A newline can come into a message from a pattern only, either with the text that the pattern matches
or with the text that it asks to be written. All else that rules say stands on one line: words have
no newline, sentences are only counted, and complaints about options quote what they do not accept.

* `PatternRule.IsOneLine` : no pattern of a rule has a newline.
* `NoTodo.isOneLine_check`, `SentenceLength.isOneLine_check`, `NoDoubledWord.isOneLine_check` and
  `PatternRule.isOneLine_check` : what the rules report.
-/

namespace ProseLinter

open Text

/-- All that a report says stands on one line. -/
structure Rule.Report.IsOneLine (r : Rule.Report) : Prop where
  findings : ∀ f ∈ r.findings, OneLine f.text
  failure : ∀ e, r.failure = some e → OneLine e.message

theorem Rule.Report.isOneLine_ok {findings : List Finding} (h : ∀ f ∈ findings, OneLine f.text) :
    (Rule.Report.ofExcept (.ok findings)).IsOneLine :=
  ⟨h, fun _ he => by cases he⟩

theorem Rule.Report.isOneLine_error {e : RuleError} (h : OneLine e.message) :
    (Rule.Report.ofExcept (.error e)).IsOneLine := by
  refine ⟨fun f hf => absurd hf List.not_mem_nil, fun e' he' => ?_⟩
  cases he'
  exact h

theorem Rule.Context.oneLine_of_mem_scan {c : Rule.Context} {type : NodeType}
    {search : List Char → List Match} (h : ∀ text, ∀ m ∈ search text, OneLine m.text) :
    ∀ f ∈ c.scan type search, OneLine f.text := by
  intro f hf
  obtain ⟨node, -, hf⟩ := List.mem_flatMap.1 hf
  obtain ⟨m, hm, rfl⟩ := List.mem_map.1 hf
  exact h _ m hm

theorem RuleError.oneLine_invalidOptions {rule reason : String} (hrule : OneLine rule)
    (hreason : OneLine reason) : OneLine (RuleError.invalidOptions rule reason).message := by
  change OneLine ("Invalid options for rule '" ++ rule ++ "': " ++ reason)
  simp only [oneLine_append]
  exact ⟨⟨⟨by decide, hrule⟩, by decide⟩, hreason⟩

/-- Options that cannot be read are complained about on one line. -/
theorem Rule.Context.oneLine_of_readOptions {α : Type} {c : Rule.Context} {default : α}
    {decode : Json.Decoder α} {e : RuleError} (hname : OneLine c.ruleId)
    (hdecode : Json.OnOneLine decode) (h : c.readOptions default decode = .error e) :
    OneLine e.message := by
  rw [readOptions] at h
  split at h
  · cases h
  · cases hvalue : decode c.options with
    | ok a => rw [hvalue] at h; cases h
    | error complaint =>
      rw [hvalue] at h
      cases h
      exact RuleError.oneLine_invalidOptions hname (hdecode _ _ hvalue)

/-! ### Todo markers -/

namespace NoTodo

theorem Options.onOneLine_decode : Json.OnOneLine Options.decode := by
  refine Json.Record.onOneLine_decode (by decide) rfl ?_ fun _ _ _ h => by cases h
  intro name v acc e h
  simp only [Options.record] at h
  split at h
  · exact (Json.onOneLine_decodeList Json.onOneLine_decodeString).of_field h
  · exact (Json.onOneLine_decodeList Json.onOneLine_decodeString).of_field h
  · exact Json.onOneLine_decodeBool.of_field h

/-- The form in which texts are compared has the newlines of the text. -/
theorem newline_mem_fold_iff {o : Options} {cs : List Char} : '\n' ∈ o.fold cs ↔ '\n' ∈ cs := by
  rw [Options.fold]
  split
  · rfl
  · exact newline_mem_asciiUpper_iff

/-- A marker is written on one line if all patterns are. -/
theorem Matched.oneLine {o : Options} {m : Match} (h : Matched o m)
    (ho : ∀ p ∈ o.patterns, OneLine p) : OneLine m.text := by
  have heffective : ∀ p ∈ o.effectivePatterns, OneLine p := by
    rw [Options.effectivePatterns]
    split
    · exact (by decide : ∀ p ∈ defaultPatterns, OneLine p)
    · exact ho
  obtain ⟨pattern, hpattern, hfold⟩ := h.isMarker
  have hchars : '\n' ∉ m.chars := by
    rw [← newline_mem_fold_iff (o := o), hfold, newline_mem_fold_iff]
    exact heffective pattern hpattern
  rw [h.text_eq, messageText]
  simp only [oneLine_append, oneLine_ofList]
  exact ⟨⟨by decide, not_mem_trim hchars⟩, by decide⟩

theorem isOneLine_check {c : Rule.Context} (hname : OneLine c.ruleId)
    (hpatterns : ∀ o, c.readOptions {} Options.decode = .ok o → ∀ p ∈ o.patterns, OneLine p) :
    (rule.check c).IsOneLine := by
  change (Rule.Report.ofExcept (check c)).IsOneLine
  cases h : c.readOptions {} Options.decode with
  | error e =>
    rw [check_of_readOptions_error h]
    exact Rule.Report.isOneLine_error (c.oneLine_of_readOptions hname Options.onOneLine_decode h)
  | ok o =>
    rw [check_of_readOptions h]
    refine Rule.Report.isOneLine_ok (c.oneLine_of_mem_scan fun text m hm => ?_)
    exact (readsIn_of_mem_search hm).2.oneLine (hpatterns o h)

end NoTodo

/-! ### Long sentences -/

namespace SentenceLength

theorem Options.onOneLine_decode : Json.OnOneLine Options.decode := by
  refine Json.Record.onOneLine_decode (by decide) rfl ?_ fun _ _ _ h => by cases h
  intro name v acc e h
  exact (Json.onOneLine_decodeNat 64 (by decide)).of_field h

/-- Of a sentence only its length is written. -/
theorem Matched.oneLine {max : Nat} {text : List Char} {m : Match} (h : Matched max text m) :
    OneLine m.text := by
  rw [h.text_eq]
  change OneLine ("Line exceeds the maximum sentence length of " ++ toString max ++ " (" ++
    toString m.chars.length ++ " characters).")
  simp only [oneLine_append]
  exact ⟨⟨⟨⟨by decide, oneLine_toString _⟩, by decide⟩, oneLine_toString _⟩, by decide⟩

theorem isOneLine_check {c : Rule.Context} (hname : OneLine c.ruleId) :
    (rule.check c).IsOneLine := by
  change (Rule.Report.ofExcept (check c)).IsOneLine
  cases h : c.readOptions {} Options.decode with
  | error e =>
    rw [check_of_readOptions_error h]
    exact Rule.Report.isOneLine_error (c.oneLine_of_readOptions hname Options.onOneLine_decode h)
  | ok o =>
    rw [check_of_readOptions h]
    split
    · -- A limit of nothing is refused by the rule itself.
      exact Rule.Report.isOneLine_error (RuleError.oneLine_invalidOptions hname (by decide))
    · refine Rule.Report.isOneLine_ok (c.oneLine_of_mem_scan fun text m hm => ?_)
      exact (readsIn_of_mem_search hm).2.oneLine

end SentenceLength

/-! ### Doubled words -/

namespace NoDoubledWord

/-- A word has no newline. -/
theorem Matched.oneLine {text : List Char} {m : Match} (h : Matched text m) : OneLine m.text := by
  obtain ⟨before, word, hneighbours, -, -, hchars⟩ := h.isRepeated
  have hword : word ∈ words text := hneighbours.subset (by simp)
  have hnewline : '\n' ∉ m.chars := by
    rw [hchars]
    intro hmem
    have hrun : IsRun text word.piece :=
      ((areWords_words text).mem_iff _).1 (List.mem_map_of_mem hword)
    have hform : isWordChar '\n' = true := hrun.isWordChar_eq '\n' hmem
    exact absurd hform (by decide)
  rw [h.text_eq, messageText]
  simp only [oneLine_append, oneLine_ofList]
  exact ⟨⟨by decide, hnewline⟩, by decide⟩

theorem isOneLine_check (c : Rule.Context) : (rule.check c).IsOneLine where
  findings := c.oneLine_of_mem_scan fun _ _ hm => (readsIn_of_mem_search hm).2.oneLine
  failure _ he := by cases he

end NoDoubledWord

/-! ### Patterns -/

namespace PatternRule

/-- No pattern of a rule has a newline, neither in what it looks for nor in what it says. -/
def IsOneLine (r : PatternRule) : Prop :=
  ∀ p ∈ r.patterns, '\n' ∉ p.needle ∧ OneLine p.text

theorem Matched.oneLine {r : PatternRule} {m : Match} (h : r.Matched m) (hr : r.IsOneLine) :
    OneLine m.text := by
  obtain ⟨p, hp, hfold, htext, -⟩ := h
  obtain ⟨hneedle, hsays⟩ := hr p hp
  have hchars : '\n' ∉ m.chars := by
    rw [← hfold, fold] at hneedle
    split at hneedle
    · exact hneedle
    · rwa [newline_mem_asciiLower_iff] at hneedle
  rw [htext, fillMatch, oneLine_ofList]
  exact not_mem_replaceAll hchars hsays

theorem isOneLine_check {r : PatternRule} (hr : r.IsOneLine) (c : Rule.Context) :
    (r.toRule.check c).IsOneLine where
  findings f hf := by
    obtain ⟨type, -, hf⟩ := List.mem_flatMap.1 hf
    exact c.oneLine_of_mem_scan (fun _ _ hm => (readsIn_of_mem_search hm).2.oneLine hr) f hf
  failure _ he := by cases he

end PatternRule

end ProseLinter
