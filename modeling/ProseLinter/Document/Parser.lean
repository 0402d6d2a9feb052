import ProseLinter.Document.PlainText
import ProseLinter.Markdown.Parser

/-!
# Parsers

A parser turns texts of some file extensions into documents, or says why it cannot. Extensions are
compared without their leading dots and in letters of any case.

* `Parser.bounded` refuses the texts that are too long for the offsets of spans.
* `Parsers.forExtension?` is the first parser that handles an extension, unless the extension is
  not among those allowed.
-/

namespace ProseLinter

/-- Why a text has no document. -/
inductive ParseError where
  | malformed (reason : String)
  | tooLarge (size : Nat)
deriving DecidableEq, Repr

/-- The text of an error. -/
def ParseError.message : ParseError → String
  | malformed reason => "Markdown syntax error: " ++ reason
  | tooLarge size => "Source is " ++ toString size ++ " bytes, more than spans can address"

/-- A parser and the extensions that it handles. -/
structure Parser where
  name : String
  extensions : List String
  parse : List Char → Except ParseError Node

namespace Parser

/-- Parses a text unless its end lies beyond the offsets of spans. -/
def bounded (parse : List Char → Node) (text : List Char) : Except ParseError Node :=
  if Span.limit ≤ Text.byteLength text then .error (.tooLarge (Text.byteLength text))
  else .ok (parse text)

/-- The parser for Markdown. -/
def markdown : Parser where
  name := "markdown"
  extensions := ["md", "markdown", "mdown", "mkdn", "mkd"]
  parse := bounded Markdown.parse

/-- The parser for plain text. -/
def plainText : Parser where
  name := "text"
  extensions := ["txt", "text"]
  parse := bounded PlainText.parse

end Parser

/-- Parsers in the order in which they are asked, and the extensions that are allowed; without a
list of these all are. -/
structure Parsers where
  parsers : List Parser
  allowed : Option (List String)

namespace Parsers

/-- No parsers. -/
def empty : Parsers :=
  ⟨[], none⟩

/-- Adds a parser at the end. -/
def register (ps : Parsers) (p : Parser) : Parsers :=
  { ps with parsers := ps.parsers ++ [p] }

/-- The parsers of this library. -/
def default : Parsers :=
  (empty.register .markdown).register .plainText

/-- The extension without leading dots. -/
def trimDots (extension : String) : String :=
  String.ofList (extension.toList.dropWhile (· == '.'))

/-- Whether two extensions are the same but for the case of ASCII letters. -/
def sameExtension (a b : String) : Bool :=
  a.toLower == b.toLower

/-- Allows some extensions only; an empty list allows all. -/
def restrict (ps : Parsers) (extensions : List String) : Parsers :=
  { ps with
    allowed := if extensions.isEmpty then none
      else some (extensions.map fun e => (trimDots e).toLower) }

/-- The first parser that handles an allowed extension. -/
def forExtension? (ps : Parsers) (extension : String) : Option Parser :=
  let e := trimDots extension
  let isAllowed := match ps.allowed with
    | some all => all.any (sameExtension · e)
    | none => true
  if isAllowed then ps.parsers.find? fun p => p.extensions.any (sameExtension · e) else none

/-- All extensions that the parsers handle. -/
def extensions (ps : Parsers) : List String :=
  ps.parsers.flatMap (·.extensions)

end Parsers

end ProseLinter
