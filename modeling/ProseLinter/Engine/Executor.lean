import ProseLinter.Document.Parser
import ProseLinter.Loading.Registry
import ProseLinter.Report.Result

/-!
# Running rules

A file or text is parsed once, and then each active rule runs in a context of its own. The messages
of a rule come in one block, followed by a message of its own if the rule failed.

* `ActiveRule.block` is the block of a rule.
* `executeOnFiles` lints the files that have a parser and leaves the others out.
-/

namespace ProseLinter

/-- A rule that runs, with the options and the severity that a configuration sets. -/
structure ActiveRule where
  name : String
  rule : Rule
  options : Json
  forced : Option Severity

namespace ActiveRule

/-- The active rule of an entry, unless it is switched off; `option?` takes the place of the option
that the entry was registered with. -/
def ofEntry (e : RuleEntry) (option? : Option RuleOption) : Option ActiveRule :=
  let option := option?.getD e.option
  if option.isEnabled then some ⟨e.name, e.rule, option.forRule, option.forced⟩ else none

/-- What a rule gets to see of a document. -/
def context (a : ActiveRule) (document : Node) (source : List Char) (lines : LineIndex)
    (filePath : Option String) : Rule.Context :=
  { ruleId := a.name, document, source, lines, filePath, options := a.options, forced := a.forced }

/-- The messages of a rule, followed by one for its failure if it failed. -/
def block (a : ActiveRule) (document : Node) (source : List Char) (lines : LineIndex)
    (filePath : Option String) : List Message :=
  let context := a.context document source lines filePath
  let report := a.rule.check context
  report.messages context ++
    match report.failure with
    | some e => [FileResult.fatalMessage ("Rule '" ++ a.name ++ "' failed: " ++ e.message)]
    | none => []

end ActiveRule

namespace Executor

/-- Why a file could not be linted. -/
inductive FileError where
  | unreadable (fault : FileFault)
  | notUnicode
  | tooLarge (size limit : Nat)
  | unparsable (error : ParseError)

/-- The text of an error. -/
def FileError.message : FileError → String
  | unreadable fault => "Failed to read file: " ++ fault.message
  | notUnicode => "File is not valid UTF-8"
  | tooLarge size limit =>
    "File is too large (" ++ toString size ++ " bytes, limit is " ++ toString limit ++ " bytes)"
  | unparsable error => "Parse error: " ++ error.message

/-- The greatest size of a file in bytes. -/
def sizeLimit : Nat := 10 * 1024 * 1024

/-- The messages for a text: the blocks of all rules in order. -/
def lintSource (parser : Parser) (rules : List ActiveRule) (source : List Char)
    (filePath : Option String) : Except FileError (List Message) := do
  let document ← (parser.parse source).mapError .unparsable
  let lines := LineIndex.ofText source
  return rules.flatMap fun a => a.block document source lines filePath

/-- The messages for a file. -/
def lintFile (files : FileTree) (parser : Parser) (rules : List ActiveRule) (path : Path) :
    Except FileError (List Message) := do
  let content ← (files.read path).mapError .unreadable
  if sizeLimit < content.size then throw (.tooLarge content.size sizeLimit)
  match String.fromUTF8? content with
  | some text => lintSource parser rules text.toList (some path.text)
  | none => throw .notUnicode

/-- The result for what was linted: its messages, or one message for why it could not be. -/
def resultOf (filePath : String) : Except FileError (List Message) → FileResult
  | .ok messages => ⟨filePath, messages⟩
  | .error e => .fatal filePath e.message

/-- The result for a file, if there is a parser for it. -/
def executeOnFile (files : FileTree) (parsers : Parsers) (rules : List ActiveRule) (path : Path) :
    Option FileResult :=
  (parsers.forExtension? (path.extension?.getD "")).map fun parser =>
    resultOf path.text (lintFile files parser rules path)

/-- The results for files, in the order of the paths. -/
def executeOnFiles (files : FileTree) (parsers : Parsers) (rules : List ActiveRule)
    (paths : List Path) : List FileResult :=
  paths.filterMap (executeOnFile files parsers rules)

/-- The result for a text of an extension, if there is a parser for it. -/
def executeOnText (parsers : Parsers) (rules : List ActiveRule) (text extension : String) :
    List FileResult :=
  match parsers.forExtension? extension with
  | some parser => [resultOf FileResult.textPath (lintSource parser rules text.toList none)]
  | none => []

end Executor

end ProseLinter
