import ProseLinter.Markdown.Block
import ProseLinter.Markdown.Tree

/-!
# Tasks

A list item is a task when its first paragraph begins with a check box: a blank or an `x` in
brackets, with text after it. The check box does not belong to the paragraph, and neither does the
white space character after it.

* `afterCheckBox?` reads the check box at the start of a paragraph, and `taskTree` gives the tree of
  a paragraph that begins with one.
-/

namespace ProseLinter.Markdown

/-- The text after the check box at the start of a text. -/
def afterCheckBox? (gs : List Glyph) : Option (List Glyph) :=
  match gs with
  | a :: b :: c :: rest =>
    let isBox := a.char == '[' && (b.isSpace || b.char == 'x' || b.char == 'X') && c.char == ']'
    match isBox, rest with
    | true, d :: _ =>
      if d.isEnding || (d.isBlank && !(skipBlanks rest).isEmpty) then some rest else none
    | _, _ => none
  | _ => none

/-- A text without the white space character that it begins with, and the size of that. -/
def dropSpace (text : List Char) : Nat × List Char :=
  match text with
  | '\r' :: '\n' :: cs => (2, cs)
  | c :: cs => if c == ' ' || c == '\t' || c == '\n' || c == '\r' then (1, cs) else (0, c :: cs)
  | [] => (0, [])

/-- The paragraph of a task. Its text begins with the white space after the check box; when it is
the first block of its item, paragraph and text start after that. -/
def taskTree (isFirst : Bool) (span : Span) (trees : List Tree) : Tree :=
  match isFirst, trees with
  | true, .leaf (.text value) (some textSpan) :: rest =>
    let (size, text) := dropSpace value.toList
    let start := textSpan.start + size
    .container .paragraph (some ⟨start, span.stop⟩) <|
      if text.isEmpty then rest
      else .leaf (.text (String.ofList text)) (some ⟨start, textSpan.stop⟩) :: rest
  | _, _ => .container .paragraph span trees

end ProseLinter.Markdown
