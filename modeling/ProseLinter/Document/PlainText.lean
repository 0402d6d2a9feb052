import ProseLinter.Document.Node
import ProseLinter.Text.Blank
import ProseLinter.Text.Piece

/-!
# Plain text

A plain text is a sequence of lines, each with its newline. A line is blank when it holds blanks
only. Consecutive lines that are not blank form a paragraph, which starts where its first line does
and ends before the line end of its last line.

* `PlainText.parse` gives the document: its paragraphs hold one literal each.
-/

namespace ProseLinter.PlainText

/-- A line without its line end. -/
def withoutEnd (line : Text.Piece) : Text.Piece :=
  { line with chars := Text.trimEndWhile (fun c => c == '\n' || c == '\r') line.chars }

/-- The lines of a text without their line ends. -/
def lines (text : List Char) : List Text.Piece :=
  (Text.pieces (· == '\n') text).map withoutEnd

/-- Whether a line holds blanks only. -/
def isBlankLine (line : Text.Piece) : Bool :=
  line.chars.all Text.isBlank

/-- The spans of the paragraphs of lines; `opened?` is the paragraph that the lines before left
open, and `done` the ones they completed, the last one first. -/
def paragraphsFrom (done : List Span) (opened? : Option Span) : List Text.Piece → List Span
  | [] => (opened?.toList ++ done).reverse
  | line :: rest =>
    if isBlankLine line then paragraphsFrom (opened?.toList ++ done) none rest
    else
      let start := match opened? with
        | some span => span.start
        | none => line.start
      paragraphsFrom done (some ⟨start, line.stop⟩) rest

/-- The spans of the paragraphs of a text. -/
def paragraphs (text : List Char) : List Span :=
  paragraphsFrom [] none (lines text)

/-- A paragraph of a text: one literal of the same span. -/
def paragraphNode (text : List Char) (span : Span) : Node :=
  let value := (Text.slice? text span.start span.stop).getD []
  .parent .paragraph span [.literal .str span (String.ofList value)]

/-- The document of a text. -/
def parse (text : List Char) : Node :=
  .parent .document ⟨0, Text.byteLength text⟩ ((paragraphs text).map (paragraphNode text))

end ProseLinter.PlainText
