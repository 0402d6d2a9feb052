import Mathlib.Data.List.Forall2
import ProseLinter.Engine.Executor

/-!
# The results of a batch

Every file is linted by itself: its result depends on the file, its parser and the rules, and on no
other file of the batch. A file that cannot be opened gets one message that says why. The messages
of any other file are the blocks of the rules in order, and the block of a rule depends on no other
rule.

* `ActiveRule.isBlock_blockOn` : what a block consists of.
* `Opens` and `Faulty` : a file is opened by a parser, or there is one reason why not.
* `results_composed` : the results of a batch, and what they lose with a rule or a path.
-/

namespace ProseLinter

/-! ### Blocks -/

namespace ActiveRule

/-- A message reports a finding: under the name of the rule, at the position where the finding
starts, and with the severity that is forced, if one is. -/
structure Says (a : ActiveRule) (source : List Char) (f : Finding) (m : Message) : Prop where
  ruleId_eq : m.ruleId = a.name
  text_eq : m.text = f.text
  span_eq : m.span = f.span
  position_eq : (⟨m.line, m.column⟩ : Position) = (LineIndex.ofText source).position m.span.start
  severity_eq : m.severity = a.forced.getD f.severity

/-- The block of a rule for a document of a source. -/
def blockOn (a : ActiveRule) (document : Node) (source : List Char) (filePath : Option String) :
    List Message :=
  a.block document source (LineIndex.ofText source) filePath

/-- The report of a rule for a document of a source, in a context of its own. -/
def reportOn (a : ActiveRule) (document : Node) (source : List Char) (filePath : Option String) :
    Rule.Report :=
  a.rule.check (a.context document source (LineIndex.ofText source) filePath)

/-- The messages of a rule for a document: one for each finding, in order, and behind them one for
its failure if the rule failed. -/
inductive IsBlock (a : ActiveRule) (document : Node) (source : List Char)
    (filePath : Option String) : List Message → Prop
  | passed {reported : List Message}
      (h : (a.reportOn document source filePath).failure = none)
      (hreported : List.Forall₂ (a.Says source) (a.reportOn document source filePath).findings
        reported) :
      IsBlock a document source filePath reported
  | failed {reported : List Message} {e : RuleError}
      (h : (a.reportOn document source filePath).failure = some e)
      (hreported : List.Forall₂ (a.Says source) (a.reportOn document source filePath).findings
        reported) :
      IsBlock a document source filePath
        (reported ++ [FileResult.fatalMessage ("Rule '" ++ a.name ++ "' failed: " ++ e.message)])

/-- The message for a finding reports it. -/
theorem says_message (a : ActiveRule) (document : Node) (source : List Char)
    (filePath : Option String) (f : Finding) :
    a.Says source f
      ((a.context document source (LineIndex.ofText source) filePath).message f) where
  ruleId_eq := rfl
  text_eq := rfl
  span_eq := rfl
  position_eq := rfl
  severity_eq := rfl

/-- The block of a rule consists of the messages for its findings and one for its failure. -/
theorem isBlock_blockOn (a : ActiveRule) (document : Node) (source : List Char)
    (filePath : Option String) :
    a.IsBlock document source filePath (a.blockOn document source filePath) := by
  have hreported : List.Forall₂ (a.Says source) (a.reportOn document source filePath).findings
      ((a.reportOn document source filePath).messages
        (a.context document source (LineIndex.ofText source) filePath)) := by
    rw [Rule.Report.messages, List.forall₂_map_right_iff, List.forall₂_same]
    exact fun f _ => a.says_message document source filePath f
  cases hfailure : (a.reportOn document source filePath).failure with
  | none =>
    have hblock : a.blockOn document source filePath =
        (a.reportOn document source filePath).messages
          (a.context document source (LineIndex.ofText source) filePath) ++ [] := by
      rw [blockOn, block, ← reportOn, hfailure]
    rw [hblock, List.append_nil]
    exact .passed hfailure hreported
  | some e =>
    rw [blockOn, block, ← reportOn, hfailure]
    exact .failed hfailure hreported

end ActiveRule

/-! ### Files -/

/-- The paths that have a parser for their extension, each with its parser. -/
def Parsers.admitted (ps : Parsers) (paths : List Path) : List (Path × Parser) :=
  paths.filterMap fun path =>
    (ps.forExtension? (path.extension?.getD "")).map fun parser => (path, parser)

namespace Executor

variable {files : FileTree} {parser : Parser} {path : Path}

/-- A file is a text of at most the greatest size, and the parser makes a document of it. -/
structure Opens (files : FileTree) (parser : Parser) (path : Path) (source : String)
    (document : Node) : Prop where
  isText : ∃ content, files.read path = .ok content ∧ content.size ≤ sizeLimit ∧
    String.fromUTF8? content = some source
  isParsed : parser.parse source.toList = .ok document

/-- Why a file is not opened by a parser. -/
inductive Faulty (files : FileTree) (parser : Parser) (path : Path) : FileError → Prop
  | unreadable {fault : FileFault} (h : files.read path = .error fault) :
      Faulty files parser path (.unreadable fault)
  | tooLarge {content : ByteArray} (h : files.read path = .ok content)
      (hsize : sizeLimit < content.size) :
      Faulty files parser path (.tooLarge content.size sizeLimit)
  | notUnicode {content : ByteArray} (h : files.read path = .ok content)
      (hsize : content.size ≤ sizeLimit) (htext : String.fromUTF8? content = none) :
      Faulty files parser path .notUnicode
  | unparsable {content : ByteArray} {source : String} {e : ParseError}
      (h : files.read path = .ok content) (hsize : content.size ≤ sizeLimit)
      (htext : String.fromUTF8? content = some source)
      (hparse : parser.parse source.toList = .error e) :
      Faulty files parser path (.unparsable e)

/-- A file is opened, or there is a reason why not. -/
theorem opens_or_faulty (files : FileTree) (parser : Parser) (path : Path) :
    (∃ source document, Opens files parser path source document) ∨
      ∃ e, Faulty files parser path e := by
  cases hread : files.read path with
  | error fault => exact .inr ⟨_, .unreadable hread⟩
  | ok content =>
    rcases Nat.lt_or_ge sizeLimit content.size with hsize | hsize
    · exact .inr ⟨_, .tooLarge hread hsize⟩
    · cases htext : String.fromUTF8? content with
      | none => exact .inr ⟨_, .notUnicode hread hsize htext⟩
      | some source =>
        cases hparse : parser.parse source.toList with
        | error e => exact .inr ⟨_, .unparsable hread hsize htext hparse⟩
        | ok document => exact .inl ⟨source, document, ⟨content, hread, hsize, htext⟩, hparse⟩

/-- The messages for a file that is opened are the blocks of the rules in order. -/
theorem lintFile_of_opens {source : String} {document : Node}
    (h : Opens files parser path source document) (rules : List ActiveRule) :
    lintFile files parser rules path =
      .ok (rules.flatMap (·.blockOn document source.toList (some path.text))) := by
  obtain ⟨content, hread, hsize, htext⟩ := h.isText
  have hsmall : ¬ sizeLimit < content.size := Nat.not_lt.2 hsize
  simp only [lintFile, hread, Except.mapError, bind, Except.bind, if_neg hsmall, htext, lintSource,
    h.isParsed]
  rfl

/-- A file that is not opened fails for its reason, whatever the rules are. -/
theorem lintFile_of_faulty {e : FileError} (h : Faulty files parser path e)
    (rules : List ActiveRule) : lintFile files parser rules path = .error e := by
  cases h with
  | unreadable hread => simp only [lintFile, hread, Except.mapError, bind, Except.bind]
  | tooLarge hread hsize =>
    simp only [lintFile, hread, Except.mapError, bind, Except.bind, if_pos hsize]
    rfl
  | notUnicode hread hsize htext =>
    have hsmall := Nat.not_lt.2 hsize
    simp only [lintFile, hread, Except.mapError, bind, Except.bind, if_neg hsmall, htext]
    rfl
  | unparsable hread hsize htext hparse =>
    have hsmall := Nat.not_lt.2 hsize
    simp only [lintFile, hread, Except.mapError, bind, Except.bind, if_neg hsmall, htext,
      lintSource, hparse]

/-- No file is both opened and faulty. -/
theorem Faulty.not_opens {e : FileError} (h : Faulty files parser path e) (source : String)
    (document : Node) : ¬ Opens files parser path source document := by
  intro hopens
  have herror := lintFile_of_faulty h []
  rw [lintFile_of_opens hopens] at herror
  cases herror

/-- The result for a file: one message for why it was not opened, or the blocks of the rules. -/
structure IsResult (files : FileTree) (rules : List ActiveRule) (place : Path × Parser)
    (r : FileResult) : Prop where
  filePath_eq : r.filePath = place.1.text
  messages_of_faulty : ∀ e, Faulty files place.2 place.1 e →
    r.messages = [FileResult.fatalMessage e.message]
  messages_of_opens : ∀ source document, Opens files place.2 place.1 source document →
    r.messages = rules.flatMap (·.blockOn document source.toList (some place.1.text))

/-- A result without one rule: a file that was not opened keeps its message, and any other loses
the block of that rule, from behind the blocks of the rules before it. -/
structure LosesBlock (files : FileTree) (before : List ActiveRule) (a : ActiveRule)
    (place : Path × Parser) (r r' : FileResult) : Prop where
  filePath_eq : r'.filePath = r.filePath
  eq_of_faulty : ∀ e, Faulty files place.2 place.1 e → r' = r
  messages_of_opens : ∀ source document, Opens files place.2 place.1 source document →
    ∃ first last,
      first = before.flatMap (·.blockOn document source.toList (some place.1.text)) ∧
      r.messages = first ++ a.blockOn document source.toList (some place.1.text) ++ last ∧
      r'.messages = first ++ last

/-- The result for a file and its parser. -/
def resultAt (files : FileTree) (rules : List ActiveRule) (place : Path × Parser) : FileResult :=
  resultOf place.1.text (lintFile files place.2 rules place.1)

theorem isResult_resultAt (files : FileTree) (rules : List ActiveRule) (place : Path × Parser) :
    IsResult files rules place (resultAt files rules place) where
  filePath_eq := by
    rw [resultAt]
    cases lintFile files place.2 rules place.1 <;> rfl
  messages_of_faulty e h := by
    rw [resultAt, lintFile_of_faulty h]
    rfl
  messages_of_opens source document h := by
    rw [resultAt, lintFile_of_opens h]
    rfl

theorem losesBlock_resultAt (files : FileTree) (before : List ActiveRule) (a : ActiveRule)
    (after : List ActiveRule) (place : Path × Parser) :
    LosesBlock files before a place (resultAt files (before ++ a :: after) place)
      (resultAt files (before ++ after) place) where
  filePath_eq := by
    rw [(isResult_resultAt ..).filePath_eq, (isResult_resultAt ..).filePath_eq]
  eq_of_faulty e h := by
    rw [resultAt, resultAt, lintFile_of_faulty h, lintFile_of_faulty h]
  messages_of_opens source document h := by
    refine ⟨_, after.flatMap (·.blockOn document source.toList (some place.1.text)), rfl, ?_, ?_⟩
    · rw [(isResult_resultAt ..).messages_of_opens source document h, List.flatMap_append,
        List.flatMap_cons, List.append_assoc]
    · rw [(isResult_resultAt ..).messages_of_opens source document h, List.flatMap_append]

/-- A batch lints the files that have a parser, in order, each by itself. -/
theorem executeOnFiles_eq_map (files : FileTree) (parsers : Parsers) (rules : List ActiveRule)
    (paths : List Path) :
    executeOnFiles files parsers rules paths =
      (parsers.admitted paths).map (resultAt files rules) := by
  rw [executeOnFiles, Parsers.admitted, List.map_filterMap]
  refine List.filterMap_congr fun path _ => ?_
  rw [executeOnFile, Option.map_map]
  rfl

theorem executeOnFiles_append (files : FileTree) (parsers : Parsers) (rules : List ActiveRule)
    (paths paths' : List Path) :
    executeOnFiles files parsers rules (paths ++ paths') =
      executeOnFiles files parsers rules paths ++ executeOnFiles files parsers rules paths' :=
  List.filterMap_append ..

/-- A path that has a parser has one result. -/
theorem executeOnFiles_of_eq_some {parsers : Parsers}
    (h : parsers.forExtension? (path.extension?.getD "") = some parser)
    (files : FileTree) (rules : List ActiveRule) :
    executeOnFiles files parsers rules [path] = [resultAt files rules (path, parser)] := by
  simp only [executeOnFiles, executeOnFile, List.filterMap_cons, List.filterMap_nil, h,
    Option.map_some]
  rfl

/-- A path that has no parser has no result. -/
theorem executeOnFiles_of_eq_none {parsers : Parsers}
    (h : parsers.forExtension? (path.extension?.getD "") = none)
    (files : FileTree) (rules : List ActiveRule) :
    executeOnFiles files parsers rules [path] = [] := by
  simp only [executeOnFiles, executeOnFile, List.filterMap_cons, List.filterMap_nil, h,
    Option.map_none]

/-- Every file is opened by its parser or has a reason why not, and never both. The results of a
batch are those of the paths that have a parser, in order: one message for why a file was not
opened, or the blocks of the rules, each made of what its rule reports by itself. Without one of
the rules each result loses the block of that rule, and without one of the paths the batch loses
the result for that path, and nothing else changes. -/
theorem results_composed (files : FileTree) (parsers : Parsers) (rules : List ActiveRule)
    (paths : List Path) :
    (∀ path parser, (∃ e, Faulty files parser path e) ↔
      ¬ ∃ source document, Opens files parser path source document) ∧
    List.Forall₂ (IsResult files rules) (parsers.admitted paths)
      (executeOnFiles files parsers rules paths) ∧
    (∀ a ∈ rules, ∀ document source filePath,
      a.IsBlock document source filePath (a.blockOn document source filePath)) ∧
    (∀ before a after, rules = before ++ a :: after →
      List.Forall₂ (fun place (r : FileResult × FileResult) =>
          LosesBlock files before a place r.1 r.2)
        (parsers.admitted paths)
        ((executeOnFiles files parsers rules paths).zip
          (executeOnFiles files parsers (before ++ after) paths))) ∧
    ∀ before path after, paths = before ++ path :: after →
      ∃ first last,
        List.Forall₂ (IsResult files rules) (parsers.admitted before) first ∧
        executeOnFiles files parsers rules paths =
          first ++ executeOnFiles files parsers rules [path] ++ last ∧
        executeOnFiles files parsers rules (before ++ after) = first ++ last := by
  -- A batch maps its admitted paths, so each part is about the result for one of them.
  have hresults (paths : List Path) : List.Forall₂ (IsResult files rules) (parsers.admitted paths)
      (executeOnFiles files parsers rules paths) := by
    rw [executeOnFiles_eq_map, List.forall₂_map_right_iff, List.forall₂_same]
    exact fun place _ => isResult_resultAt files rules place
  refine ⟨?_, hresults paths, ?_, ?_, ?_⟩
  · intro path parser
    constructor
    · rintro ⟨e, he⟩ ⟨source, document, hopens⟩
      exact he.not_opens source document hopens
    · intro hopens
      exact (opens_or_faulty files parser path).resolve_left hopens
  · intro a _ document source filePath
    exact a.isBlock_blockOn document source filePath
  · rintro before a after rfl
    rw [executeOnFiles_eq_map, executeOnFiles_eq_map, List.zip_map', List.forall₂_map_right_iff,
      List.forall₂_same]
    exact fun place _ => losesBlock_resultAt files before a after place
  · rintro before path after rfl
    refine ⟨executeOnFiles files parsers rules before, executeOnFiles files parsers rules after,
      hresults before, ?_, executeOnFiles_append ..⟩
    rw [executeOnFiles_append, ← List.singleton_append, executeOnFiles_append, List.append_assoc]

end Executor

end ProseLinter
