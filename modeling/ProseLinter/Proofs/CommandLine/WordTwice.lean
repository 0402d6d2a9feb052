import ProseLinter.Proofs.CommandLine.Stages
import ProseLinter.Proofs.Engine.TextAsFile
import ProseLinter.Proofs.Registry.Newcomers
import ProseLinter.Proofs.Rule.Locality

/-!
# A word that stands twice

What a run with the rule against doubled words finds in a text that is a word and the same word
again, whatever the word is: one message, which quotes the word. So the message is as long as the
word makes it.

* `NoDoubledWord.search_wordTwice` : the match in such a text.
* `CommandLine.reaches_wordResults` : the run passes all its stages, for any text.
* `CommandLine.exists_wordResults_wordTwice` : the message of the run.
-/

namespace ProseLinter

/-! ### The rule -/

namespace NoDoubledWord

variable {w : List Char}

/-- A word, a space, and the word again. -/
def wordTwice (w : List Char) : List Char :=
  w ++ ' ' :: w

/-- The code points of the blanks. -/
def blankCodes : List Nat :=
  [0x09, 0x0A, 0x0B, 0x0C, 0x0D, 0x20, 0x85, 0xA0, 0x1680, 0x2000, 0x2001, 0x2002, 0x2003, 0x2004,
   0x2005, 0x2006, 0x2007, 0x2008, 0x2009, 0x200A, 0x2028, 0x2029, 0x202F, 0x205F, 0x3000]

theorem toNat_mem_blankCodes {c : Char} (h : Text.isBlank c = true) : c.toNat ∈ blankCodes := by
  simp only [Text.isBlank, Bool.or_eq_true, Bool.and_eq_true, decide_eq_true_eq, beq_iff_eq] at h
  simp only [blankCodes, List.mem_cons, List.not_mem_nil, or_false]
  omega

/-- Blanks do not form words. -/
theorem isBlank_eq_false_of_isWordChar {c : Char} (h : isWordChar c = true) :
    Text.isBlank c = false := by
  have hnone : ∀ n ∈ blankCodes, isWordChar (Char.ofNat n) = false := by decide +kernel
  cases hblank : Text.isBlank c with
  | false => rfl
  | true =>
    have hc := hnone c.toNat (toNat_mem_blankCodes hblank)
    rw [Char.ofNat_toNat, h] at hc
    cases hc

/-- Characters that form words go on with the word that is unfinished. -/
theorem wordsFrom_append (done : List Word) (start : Nat) {current : List Char}
    (hcurrent : current ≠ []) (afterBlank : Bool) (offset : Nat)
    (hw : ∀ c ∈ w, isWordChar c = true) (cs : List Char) :
    wordsFrom done start current afterBlank offset (w ++ cs) =
      wordsFrom done start (w.reverse ++ current) afterBlank (offset + Text.byteLength w) cs := by
  induction w generalizing current offset with
  | nil => rfl
  | cons c w ih =>
    obtain ⟨hc, hw⟩ := List.forall_mem_cons.1 hw
    rw [List.cons_append, wordsFrom]
    simp only [hc, if_true, List.isEmpty_eq_false_iff.2 hcurrent, Bool.false_eq_true, if_false]
    rw [ih (List.cons_ne_nil c current) _ hw, Text.byteLength_cons, Nat.add_assoc,
      List.reverse_cons, List.append_assoc, List.singleton_append]

/-- Where no word is unfinished, a new one begins. -/
theorem wordsFrom_append_of_nil (done : List Word) (start : Nat) (afterBlank : Bool)
    (offset : Nat) (hne : w ≠ []) (hw : ∀ c ∈ w, isWordChar c = true) (cs : List Char) :
    wordsFrom done start [] afterBlank offset (w ++ cs) =
      wordsFrom done offset w.reverse afterBlank (offset + Text.byteLength w) cs := by
  cases w with
  | nil => exact absurd rfl hne
  | cons c w =>
    obtain ⟨hc, hw⟩ := List.forall_mem_cons.1 hw
    rw [List.cons_append, wordsFrom]
    simp only [hc, if_true, List.isEmpty_nil]
    rw [wordsFrom_append done offset (List.cons_ne_nil c []) _ _ hw, Text.byteLength_cons,
      Nat.add_assoc, List.reverse_cons]

/-- The words are the word and the word again, with a blank between. -/
theorem words_wordTwice (hne : w ≠ []) (hw : ∀ c ∈ w, isWordChar c = true) :
    words (wordTwice w) = [⟨0, w, false⟩, ⟨Text.byteLength w + 1, w, true⟩] := by
  have hgap : isWordChar ' ' = false := by decide
  have hblank : Text.isBlank ' ' = true := rfl
  have hreverse : w.reverse.isEmpty = false := by simpa using hne
  have hnext : 0 + Text.byteLength w + (' ' : Char).utf8Size = Text.byteLength w + 1 := by
    rw [Nat.zero_add]
    rfl
  -- The space ends the first word, and the end of the text the second one.
  have hlast := wordsFrom_append_of_nil [⟨0, w, false⟩] 0 true (Text.byteLength w + 1) hne hw []
  rw [List.append_nil] at hlast
  rw [words, wordTwice, wordsFrom_append_of_nil _ _ _ _ hne hw, wordsFrom]
  simp only [hgap, hblank, hreverse, hnext, List.reverse_reverse, Bool.false_eq_true, if_false]
  rw [hlast, wordsFrom]
  simp [hreverse]

/-- The word is matched where it is repeated. -/
theorem search_wordTwice (hne : w ≠ []) (hw : ∀ c ∈ w, isWordChar c = true) :
    search (wordTwice w) = [⟨Text.byteLength w + 1, w, messageText w, .error⟩] := by
  rw [search, words_wordTwice hne hw]
  simp [searchAmong, match?, repeats]

/-- The text is one paragraph. -/
theorem paragraphs_wordTwice (hne : w ≠ []) (hw : ∀ c ∈ w, isWordChar c = true) :
    PlainText.paragraphs (wordTwice w) = [⟨0, Text.byteLength (wordTwice w)⟩] := by
  refine PlainText.paragraphs_of_one_line (fun c hc => ?_) ?_
  · have hchar : isWordChar c = true ∨ c = ' ' := by
      rcases List.mem_append.1 hc with hc | hc
      · exact .inl (hw c hc)
      · exact (List.mem_cons.1 hc).symm.imp_left (hw c)
    rcases hchar with hchar | rfl
    · constructor <;> rintro rfl <;> exact absurd hchar (by decide)
    · decide
  · obtain ⟨c, hc⟩ := List.exists_mem_of_ne_nil w hne
    exact ⟨c, List.mem_append_left _ hc, isBlank_eq_false_of_isWordChar (hw c hc)⟩

theorem length_messageText (w : List Char) : (messageText w).length = w.length + 15 := by
  have hw : (String.ofList w).length = w.length := String.length_ofList
  rw [messageText, String.length_append, String.length_append, hw]
  change 1 + w.length + 14 = _
  omega

end NoDoubledWord

/-! ### The run -/

namespace CommandLine

open Engine (Target exec setUp)
open NoDoubledWord (wordTwice)

/-- The arguments of a run on standard input with the rule against doubled words. -/
def wordArguments : Arguments :=
  { rules := ["no-doubled-word"], readsStdin := true }

/-- The engine of that run. -/
def wordEngine (home : Path) : Engine where
  config := { rules := ["no-doubled-word"] }
  resolver := ⟨.bundled, home⟩
  pluginHome := home
  formatters := .empty
  parsers := Parsers.default.restrict []
  added := []
  isSetUp := false

/-- The entry of the rule. -/
def wordEntry : RuleEntry :=
  ⟨"no-doubled-word", NoDoubledWord.rule, .bundled "kotolint-rule-no-doubled-word", .default⟩

/-- The rule is found in the catalog. -/
theorem ruleRequest_wordEngine (home : Path) :
    (wordEngine home).ruleRequest ⟨[], []⟩ (.ofText "no-doubled-word") = .ok wordEntry := by
  have hname : Naming.looksLikePath "no-doubled-word" = false := by decide +kernel
  have hbare : Naming.normalizeRule "no-doubled-word" = "no-doubled-word" := by decide +kernel
  have hplain : Naming.isPlain "no-doubled-word" = true := by decide +kernel
  have hbundled : Catalog.bundled.get? "kotolint-rule-no-doubled-word" =
      some NoDoubledWord.rule := rfl
  simp [Engine.ruleRequest, wordEngine, wordEntry, Specifier.ofText, hname, Resolver.resolve,
    Resolver.resolveName, hbare, hplain, Resolver.candidatesIn, Resolver.bundled?, hbundled,
    Naming.rulePrefix, Engine.base?, Engine.entry, Config.option?, Except.map]

/-- The results of that run for a text. -/
def wordResults (text : String) : List FileResult :=
  Executor.executeOnText (Parsers.default.restrict [])
    [⟨"no-doubled-word", NoDoubledWord.rule, .null, none⟩] text Engine.defaultExtension

/-- The run passes all stages, whatever the text is. -/
theorem reaches_wordResults (home : Path) (text : String) :
    Reaches ⟨[], []⟩ home wordArguments text.toUTF8 (wordResults text) "stylish"
      Formatter.stylish := by
  have hbuilds : Builds ⟨[], []⟩ home wordArguments (wordEngine home) := ⟨_, rfl, rfl⟩
  have htarget : targetOf wordArguments text.toUTF8 = .ok (.text text Engine.defaultExtension) := by
    rw [targetOf, Input.text, Text.fromUTF8?_toUTF8]
    rfl
  -- The engine asks for one rule, and the registry has room for it.
  have hrequests : (wordEngine home).requests ⟨[], []⟩ = [.ok wordEntry] := by
    change [(wordEngine home).ruleRequest ⟨[], []⟩ (.ofText "no-doubled-word")] = _
    rw [ruleRequest_wordEngine]
  have hsetUp : exec (setUp ⟨[], []⟩) ⟨wordEngine home, .empty⟩ =
      (.ok (), ⟨{ wordEngine home with isSetUp := true }, Registry.empty.append wordEntry⟩) := by
    refine Engine.exec_setUp_of_serve_ok rfl ?_
    rw [hrequests,
      Registry.serve_cons_of_enter_eq_ok (Registry.enter_of_get?_eq_none (Registry.get?_empty _)),
      Registry.serve]
  refine ⟨wordEngine home, _, _, hbuilds, htarget, hsetUp, ?_, rfl, rfl⟩
  have hentries : (Registry.empty.append wordEntry).entries = [wordEntry] :=
    Registry.consistent_empty.entries_append (Registry.get?_empty _)
  rw [Target.results, Engine.activeRules, hentries]
  rfl

/-- The run has one message, which quotes the word. -/
theorem exists_wordResults_wordTwice {w : List Char} (hne : w ≠ [])
    (hw : ∀ c ∈ w, NoDoubledWord.isWordChar c = true)
    (h : Text.byteLength (wordTwice w) < Span.limit) :
    ∃ m, m.text = NoDoubledWord.messageText w ∧ m.severity = .error ∧
      wordResults (String.ofList (wordTwice w)) = [⟨FileResult.textPath, [m]⟩] := by
  have hparser : (Parsers.default.restrict []).forExtension? Engine.defaultExtension =
      some .plainText := by
    simp only [Parsers.forExtension?, Parsers.sameExtension_eq]
    rfl
  have hparse : Parser.plainText.parse (wordTwice w) = .ok (PlainText.parse (wordTwice w)) :=
    if_neg (Nat.not_le.2 h)
  have hslice : Text.slice? (wordTwice w) 0 (Text.byteLength (wordTwice w)) =
      some (wordTwice w) :=
    Text.slice?_eq_some_iff.2 ⟨[], [], by simp, rfl, by simp⟩
  let finding : Finding := Match.findingAt
    ⟨Text.byteLength w + 1, w, NoDoubledWord.messageText w, .error⟩
    ⟨0, Text.byteLength (wordTwice w)⟩
  have hscan (c : Rule.Context) :
      (c.on (wordTwice w) (PlainText.parse (wordTwice w))).scan .str NoDoubledWord.search =
        [finding] := by
    rw [PlainText.scan_parse (.inl rfl), PlainText.findings,
      NoDoubledWord.paragraphs_wordTwice hne hw, List.flatMap_singleton, hslice, Option.getD_some,
      NoDoubledWord.search_wordTwice hne hw, List.map_singleton]
  let c : Rule.Context := ActiveRule.context ⟨"no-doubled-word", NoDoubledWord.rule, .null, none⟩
    (PlainText.parse (wordTwice w)) (wordTwice w) (.ofText (wordTwice w)) none
  have hblock : ActiveRule.block ⟨"no-doubled-word", NoDoubledWord.rule, .null, none⟩
      (PlainText.parse (wordTwice w)) (wordTwice w) (.ofText (wordTwice w)) none =
        ((c.on (wordTwice w) (PlainText.parse (wordTwice w))).scan .str
          NoDoubledWord.search).map c.message :=
    List.append_nil _
  rw [hscan, List.map_singleton] at hblock
  refine ⟨c.message finding, rfl, rfl, ?_⟩
  rw [wordResults, Executor.executeOnText, hparser]
  simp only [Executor.lintSource, String.toList_ofList, hparse, Except.mapError, bind, Except.bind,
    List.flatMap_singleton, hblock]
  rfl

end CommandLine

end ProseLinter
