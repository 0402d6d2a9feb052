import ProseLinter.Proofs.Engine.Batch
import ProseLinter.Proofs.Rule.Known

/-!
# Texts and the files that hold them

A text that is linted for an extension and a file of that extension that holds the text are linted
alike. The same parser is chosen, and it sees the same characters; what becomes of them is the same
for rules that do not look at the path of the file. Only the paths of the two results differ.

* `Executor.lintFile_of_read` : a file that holds a text is linted as the text is.
* `Executor.lintSource_congr` : the rules of the library and pattern rules do not look at the path.
* `Executor.file_linted_as_text` : the results for a file and for the text that it holds.
-/

namespace ProseLinter

/-- The bytes of a text are read as the text. -/
theorem Text.fromUTF8?_toUTF8 (s : String) : String.fromUTF8? s.toUTF8 = some s := by
  simp only [String.fromUTF8?, String.toUTF8_eq_toByteArray, dif_pos s.isValidUTF8]
  rfl

/-- Extensions are compared character by character, in lower case. -/
theorem Parsers.sameExtension_eq (a b : String) :
    sameExtension a b = (a.toList.map Char.toLower == b.toList.map Char.toLower) := by
  have hlower (s : String) : s.toLower.toList = s.toList.map Char.toLower := String.toList_map
  rw [sameExtension, Bool.eq_iff_iff, beq_iff_eq, beq_iff_eq, ← String.toList_inj, hlower, hlower]

/-- The block of a rule that is known does not depend on the path of the file. -/
theorem ActiveRule.blockOn_congr {a : ActiveRule} (h : a.rule.IsKnown) (document : Node)
    (source : List Char) (filePath filePath' : Option String) :
    a.blockOn document source filePath = a.blockOn document source filePath' := by
  have hcheck : a.rule.check (a.context document source (.ofText source) filePath) =
      a.rule.check (a.context document source (.ofText source) filePath') :=
    h.check_congr rfl rfl rfl rfl
  simp only [blockOn, block, hcheck]
  rfl

namespace Executor

variable {files : FileTree} {parsers : Parsers} {parser : Parser} {rules : List ActiveRule}
  {path : Path} {text : String}

/-- The messages of rules that are known do not depend on the path of the file. -/
theorem lintSource_congr (hrules : ∀ a ∈ rules, a.rule.IsKnown) (parser : Parser)
    (source : List Char) (filePath filePath' : Option String) :
    lintSource parser rules source filePath = lintSource parser rules source filePath' := by
  have hblocks : ∀ document : Node,
      rules.flatMap (·.blockOn document source filePath) =
        rules.flatMap (·.blockOn document source filePath') := fun document =>
    List.flatMap_congr fun a ha => a.blockOn_congr (hrules a ha) document source filePath filePath'
  rw [lintSource, lintSource]
  cases (parser.parse source).mapError FileError.unparsable with
  | error e => rfl
  | ok document => exact congrArg Except.ok (hblocks document)

/-- A file that holds a text of at most the greatest size is linted as the text is. -/
theorem lintFile_of_read (hread : files.read path = .ok text.toUTF8)
    (hsize : text.toUTF8.size ≤ sizeLimit) (parser : Parser) (rules : List ActiveRule) :
    lintFile files parser rules path = lintSource parser rules text.toList (some path.text) := by
  have hsmall : ¬ sizeLimit < text.toUTF8.size := Nat.not_lt.2 hsize
  rw [lintFile, hread]
  simp only [Except.mapError, bind, Except.bind, if_neg hsmall, Text.fromUTF8?_toUTF8]

/-- The messages for a text that a parser handles: the blocks of the rules, or one message for why
there is no document. -/
structure Reports (parser : Parser) (rules : List ActiveRule) (text : String)
    (messages : List Message) : Prop where
  of_parsed : ∀ document, parser.parse text.toList = .ok document →
    messages = rules.flatMap (·.blockOn document text.toList none)
  of_unparsable : ∀ e, parser.parse text.toList = .error e →
    messages = [FileResult.fatalMessage (FileError.unparsable e).message]

theorem reports_resultOf_lintSource (filePath : String) (parser : Parser)
    (rules : List ActiveRule) (text : String) :
    Reports parser rules text
      (resultOf filePath (lintSource parser rules text.toList none)).messages where
  of_parsed document h := by
    rw [lintSource, h]
    rfl
  of_unparsable e h := by
    rw [lintSource, h]
    rfl

/-- The path of a result is that of what was linted. -/
theorem resultOf_eq (filePath filePath' : String) (outcome : Except FileError (List Message)) :
    resultOf filePath outcome = ⟨filePath, (resultOf filePath' outcome).messages⟩ := by
  cases outcome <;> rfl

/-- A file holds a text of at most the greatest size, and the rules are those of the library or
pattern rules. If no parser handles the extension, the file and the text have no result. Otherwise
each has one, and the messages are the same: only the path of the result differs. -/
theorem file_linted_as_text {extension : String} (hrules : ∀ a ∈ rules, a.rule.IsKnown)
    (hread : files.read path = .ok text.toUTF8) (hsize : text.toUTF8.size ≤ sizeLimit)
    (hextension : path.extension?.getD "" = extension) :
    (parsers.forExtension? extension = none →
      executeOnFiles files parsers rules [path] = [] ∧
        executeOnText parsers rules text extension = []) ∧
    ∀ parser, parsers.forExtension? extension = some parser →
      ∃ messages, Reports parser rules text messages ∧
        executeOnFiles files parsers rules [path] = [⟨path.text, messages⟩] ∧
        executeOnText parsers rules text extension = [⟨FileResult.textPath, messages⟩] := by
  subst hextension
  constructor
  · intro hnone
    constructor
    · simp [executeOnFiles, executeOnFile, hnone]
    · simp [executeOnText, hnone]
  · intro parser hparser
    have hlint : lintFile files parser rules path = lintSource parser rules text.toList none := by
      rw [lintFile_of_read hread hsize]
      exact lintSource_congr hrules parser text.toList _ _
    refine ⟨_, reports_resultOf_lintSource FileResult.textPath parser rules text, ?_, ?_⟩
    · rw [← resultOf_eq path.text]
      simp [executeOnFiles, executeOnFile, hparser, hlint]
    · simp only [executeOnText, hparser]
      rw [← resultOf_eq]

/-- A tree with one file, whose extension is written in capital letters. -/
def oneFile : FileTree where
  entries := [(["notes", "a.TXT"], .file "TODO: a word word".toUTF8), (["notes"], .directory)]
  here := ["notes"]

/-- A rule of the library, and another one with options that it cannot read. -/
def twoRules : List ActiveRule :=
  [⟨"no-doubled-word", NoDoubledWord.rule, .null, none⟩,
   ⟨"no-todo", NoTodo.rule, .bool true, some .warning⟩]

theorem file_linted_as_text_capitals :
    (∀ a ∈ twoRules, a.rule.IsKnown) ∧
      oneFile.read ⟨"./a.TXT"⟩ = .ok "TODO: a word word".toUTF8 ∧
      "TODO: a word word".toUTF8.size ≤ sizeLimit ∧
      Path.extension? ⟨"./a.TXT"⟩ = some "TXT" ∧
      Parsers.default.forExtension? "TXT" = some .plainText ∧
      ∃ messages, messages.length = 2 ∧ Reports .plainText twoRules "TODO: a word word" messages ∧
        executeOnFiles oneFile .default twoRules [⟨"./a.TXT"⟩] = [⟨"./a.TXT", messages⟩] ∧
        executeOnText .default twoRules "TODO: a word word" "TXT" =
          [⟨FileResult.textPath, messages⟩] := by
  have hrules : ∀ a ∈ twoRules, a.rule.IsKnown := by
    intro a ha
    simp only [twoRules, List.mem_cons, List.not_mem_nil, or_false] at ha
    rcases ha with rfl | rfl
    · have hbundled : Catalog.bundled.get? "kotolint-rule-no-doubled-word" =
          some NoDoubledWord.rule := rfl
      exact .bundled hbundled rfl
    · have hbundled : Catalog.bundled.get? "kotolint-rule-no-todo" = some NoTodo.rule := rfl
      exact .bundled hbundled rfl
  have hread : oneFile.read ⟨"./a.TXT"⟩ = .ok "TODO: a word word".toUTF8 := by rfl
  have hsize : "TODO: a word word".toUTF8.size ≤ sizeLimit := by decide
  have hextension : Path.extension? ⟨"./a.TXT"⟩ = some "TXT" := by decide
  have hparser : Parsers.default.forExtension? "TXT" = some .plainText := by
    simp only [Parsers.forExtension?, Parsers.sameExtension_eq]
    rfl
  obtain ⟨messages, hreports, hfile, htext⟩ :=
    (file_linted_as_text hrules hread hsize (by rw [hextension]; rfl)).2 .plainText hparser
  refine ⟨hrules, hread, hsize, hextension, hparser, messages, ?_, hreports, hfile, htext⟩
  rw [hreports.of_parsed (PlainText.parse "TODO: a word word".toList) rfl]
  decide +kernel

end Executor

end ProseLinter
