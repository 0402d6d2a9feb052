import ProseLinter.Proofs.Engine.Batch
import ProseLinter.Proofs.Engine.Call

/-!
# What is linted

Files and texts are linted in the same way once they are opened. A target stands for some places,
each with a label and with what was opened there or why nothing was; that depends on the files and
the parsers only. The rules come in afterwards: what they have to say of what was opened makes the
result for the place.

* `Engine.Target.places` : the places of a target.
* `Engine.Target.results_eq_resultsOf` : the results for a target are what the rules that run have
  to say of its places.
-/

namespace ProseLinter

namespace Executor

/-- What was opened for rules to look at. -/
structure Opened where
  document : Node
  source : List Char
  filePath : Option String

/-- Opens a source. -/
def openSource (parser : Parser) (source : List Char) (filePath : Option String) :
    Except FileError Opened :=
  match parser.parse source with
  | .ok document => .ok ⟨document, source, filePath⟩
  | .error e => .error (.unparsable e)

/-- Opens a file. -/
def openFile (files : FileTree) (parser : Parser) (path : Path) : Except FileError Opened :=
  match files.read path with
  | .error fault => .error (.unreadable fault)
  | .ok content =>
    if sizeLimit < content.size then .error (.tooLarge content.size sizeLimit)
    else
      match String.fromUTF8? content with
      | some text => openSource parser text.toList (some path.text)
      | none => .error .notUnicode

end Executor

namespace ActiveRule

open Executor

/-- The messages of a rule for its findings in what was opened. -/
def reported (a : ActiveRule) (d : Opened) : List Message :=
  (a.reportOn d.document d.source d.filePath).messages
    (a.context d.document d.source (LineIndex.ofText d.source) d.filePath)

/-- The message of a rule that failed, if it did. -/
def failed (a : ActiveRule) (d : Opened) : List Message :=
  match (a.reportOn d.document d.source d.filePath).failure with
  | some e => [FileResult.fatalMessage ("Rule '" ++ a.name ++ "' failed: " ++ e.message)]
  | none => []

/-- All that a rule has to say of what was opened. -/
def blockFor (a : ActiveRule) (d : Opened) : List Message :=
  a.reported d ++ a.failed d

end ActiveRule

namespace Executor

variable {files : FileTree} {parser : Parser}

/-- A source is linted by opening it and asking the rules. -/
theorem lintSource_eq_map_openSource (parser : Parser) (rules : List ActiveRule)
    (source : List Char) (filePath : Option String) :
    lintSource parser rules source filePath =
      (openSource parser source filePath).map fun d => rules.flatMap (·.blockFor d) := by
  rw [lintSource, openSource]
  cases parser.parse source <;> rfl

/-- So is a file. -/
theorem lintFile_eq_map_openFile (files : FileTree) (parser : Parser) (rules : List ActiveRule)
    (path : Path) :
    lintFile files parser rules path =
      (openFile files parser path).map fun d => rules.flatMap (·.blockFor d) := by
  rw [lintFile, openFile]
  cases files.read path with
  | error fault => rfl
  | ok content =>
    simp only [Except.mapError, bind, Except.bind]
    by_cases hsize : sizeLimit < content.size
    · rw [if_pos hsize, if_pos hsize]
      rfl
    · rw [if_neg hsize, if_neg hsize]
      cases String.fromUTF8? content with
      | none => rfl
      | some text => exact lintSource_eq_map_openSource parser rules text.toList (some path.text)

end Executor

namespace Engine.Target

open Executor

/-- The places of a target that have a parser: the label of each and what was opened there. -/
def places (files : FileTree) (parsers : Parsers) : Target → List (String × Except FileError Opened)
  | .files paths =>
    (parsers.admitted paths).map fun place => (place.1.text, openFile files place.2 place.1)
  | .text content extension =>
    (parsers.forExtension? extension).toList.map fun parser =>
      (FileResult.textPath, openSource parser content.toList none)

/-- The results for a target when so much is said of what was opened. -/
def resultsOf (files : FileTree) (parsers : Parsers) (target : Target)
    (say : Opened → List Message) : List FileResult :=
  (target.places files parsers).map fun place => resultOf place.1 (place.2.map say)

/-- The results for a target are what the rules that run have to say of its places. -/
theorem results_eq_resultsOf (files : FileTree) (s : State) (target : Target) :
    target.results files s =
      target.resultsOf files s.engine.parsers fun d => (activeRules s).flatMap (·.blockFor d) := by
  cases target with
  | files paths =>
    rw [results, resultsOf, places, Executor.executeOnFiles, Parsers.admitted, List.map_map,
      List.map_filterMap]
    refine List.filterMap_congr fun path _ => ?_
    rw [executeOnFile, Option.map_map]
    cases s.engine.parsers.forExtension? (path.extension?.getD "") with
    | none => rfl
    | some parser =>
      rw [Option.map_some, Option.map_some, lintFile_eq_map_openFile]
      rfl
  | text content extension =>
    rw [results, resultsOf, places, Executor.executeOnText, List.map_map]
    cases s.engine.parsers.forExtension? extension with
    | none => rfl
    | some parser =>
      change [resultOf _ (lintSource _ _ _ _)] = _
      rw [lintSource_eq_map_openSource]
      rfl

theorem resultsOf_congr {files : FileTree} {parsers : Parsers} {target : Target}
    {say say' : Opened → List Message} (h : ∀ d, say d = say' d) :
    target.resultsOf files parsers say = target.resultsOf files parsers say' := by
  rw [funext h]

end Engine.Target

end ProseLinter
