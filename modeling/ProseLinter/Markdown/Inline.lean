import ProseLinter.Markdown.Tree
import ProseLinter.Markdown.CharacterReference
import ProseLinter.Text.Blank
import ProseLinter.Text.Punctuation

/-!
# Inline pieces

Running text is first read as a list of pieces: characters, decoded characters, line ends, runs of
attention markers, and finished trees such as code and links. This module turns a list of pieces
without runs into trees.

* Blanks around line ends and at the ends of the whole text are dropped; two or more of them before
  a line end break the line.
* Pieces of text side by side form one text.
-/

namespace ProseLinter.Markdown

/-- A run of one attention marker. -/
structure Run where
  marker : Char
  /-- The markers that are left; never none while the run is in use. -/
  glyphs : List Glyph
  /-- Whether the run may open a span of attention. -/
  opens : Bool
  /-- Whether the run may close a span of attention. -/
  closes : Bool
deriving Repr

/-- A piece of running text. -/
inductive Inline where
  /-- Characters that stand for themselves. -/
  | plain (glyphs : List Glyph)
  /-- A character written as an escape or a reference. -/
  | decoded (span : Span) (value : List Char)
  | ending (glyph : Glyph)
  /-- The start of a line break that lasts up to the end of the following line end. -/
  | break (start : Nat)
  | run (run : Run)
  | tree (tree : Tree)
deriving Repr

namespace Inline

/-- Whether a piece is a line end. -/
def isEnding : Inline → Bool
  | ending _ => true
  | _ => false

/-- Puts a piece in front of others; plain characters join those that follow. -/
def join : Inline → List Inline → List Inline
  | plain gs, plain hs :: rest => plain (gs ++ hs) :: rest
  | p, rest => p :: rest

/-- The pieces with plain characters side by side joined; a run counts as plain characters. -/
def merge (pieces : List Inline) : List Inline :=
  pieces.foldr (fun p rest => match p with
    | run r => join (plain r.glyphs) rest
    | p => join p rest) []

/-! ### Blanks at the ends of lines -/

/-- Plain characters, unless there are none. -/
def ofGlyphs (gs : List Glyph) : List Inline :=
  if gs.isEmpty then [] else [plain gs]

/-- The number of blanks before a line end that break the line. -/
def breakSize : Nat := 2

/-- Removes the blanks at the end of plain characters; before a line end, enough blanks and
nothing else become a break. -/
def trimEnd (beforeEnding : Bool) (gs : List Glyph) : List Glyph × List Inline :=
  let tail := (gs.reverse.takeWhile Glyph.isBlank).reverse
  let body := gs.take (gs.length - tail.length)
  match tail with
  | g :: _ =>
    if beforeEnding && breakSize ≤ tail.length && tail.all (·.char == ' ') then
      (body, [.break g.start])
    else (body, [])
  | [] => (body, [])

/-- Removes the blanks at the start of plain characters. Where the text begins inside a tab, the
last blank of it is kept, and the tab itself if there is no other; nothing is kept of a text of
blanks alone. -/
def trimStart (gs : List Glyph) : List Glyph :=
  let rest := skipBlanks gs
  match gs with
  | [] => []
  | g :: _ =>
    if g.fill == 0 || rest.isEmpty then rest
    else (((gs.takeWhile Glyph.isBlank).getLast?.map Glyph.restored).toList) ++ rest

/-- Removes the blanks around line ends. `atStart` says whether blanks at the start are dropped
too, and `atEnd` whether those at the end are. -/
def trim (atStart atEnd : Bool) : List Inline → List Inline
  | [] => []
  | plain gs :: rest =>
    let (beforeEnding, isLast) := match rest with
      | p :: _ => (p.isEnding, false)
      | [] => (false, atEnd)
    let (gs, breaks) :=
      if beforeEnding || isLast then trimEnd beforeEnding gs else (gs, [])
    let gs := if atStart then trimStart gs else gs
    ofGlyphs gs ++ breaks ++ trim false atEnd rest
  | p :: rest => p :: trim p.isEnding atEnd rest

/-! ### Texts -/

/-- The pieces as text, where that is all they are; a line break has none, and takes its line end
with it. -/
def text : List Inline → List Char
  | .break _ :: ending _ :: rest => text rest
  | plain gs :: rest => glyphText gs ++ text rest
  | decoded _ value :: rest => value ++ text rest
  | ending g :: rest => g.text ++ text rest
  | _ :: rest => text rest
  | [] => []

/-- The span of glyphs. -/
def spanOf : List Glyph → Span
  | [] => ⟨0, 0⟩
  | g :: gs => ⟨g.start, ((g :: gs).getLast (List.cons_ne_nil g gs)).stop⟩

/-- A text that may go on: its span, and its characters with the last one first. -/
structure PendingText where
  span : Span
  chars : List Char

/-- The tree of a text that has ended. -/
def PendingText.tree (t : PendingText) : Tree :=
  .leaf (.text (String.ofList t.chars.reverse)) t.span

/-- A text with more of it. -/
def addText (open? : Option PendingText) (span : Span) (value : List Char) : Option PendingText :=
  match open? with
  | some t => some ⟨⟨t.span.start, span.stop⟩, value.reverseAux t.chars⟩
  | none => some ⟨span, value.reverse⟩

/-- The trees of pieces without runs. `open?` is the text just before them, and `done` holds the
trees before that, the last one first. -/
def treesFrom (done : List Tree) (open? : Option PendingText) : List Inline → List Tree
  | [] => (open?.toList.map PendingText.tree ++ done).reverse
  | .break start :: ending g :: rest =>
    let closed := open?.toList.map PendingText.tree ++ done
    treesFrom (.leaf .break (some ⟨start, g.stop⟩) :: closed) none rest
  | .break _ :: rest => treesFrom done open? rest
  | plain gs :: rest => treesFrom done (addText open? (spanOf gs) (glyphText gs)) rest
  | decoded span value :: rest => treesFrom done (addText open? span value) rest
  | ending g :: rest => treesFrom done (addText open? (spanOf [g]) g.text) rest
  | run r :: rest => treesFrom done (addText open? (spanOf r.glyphs) (glyphText r.glyphs)) rest
  | tree t :: rest => treesFrom (t :: (open?.toList.map PendingText.tree ++ done)) none rest

/-- The trees of pieces without runs. -/
def trees (pieces : List Inline) : List Tree :=
  treesFrom [] none pieces

end Inline

/-! ### Attributes -/

/-- The pieces of an attribute, in which only escapes and character references have a meaning.
Blanks at the start of its further lines do not belong to it. `fuel` is at least the number of
glyphs. -/
def attributePieces : (fuel : Nat) → List Glyph → List Inline
  | 0, _ => []
  | _, [] => []
  | fuel + 1, g :: gs =>
    if g.isEnding then .ending g :: attributePieces fuel (skipBlanks gs)
    else
      let decoded := match g.char with
        | '\\' => (escaped? gs).map fun (h, rest) => (⟨h.start, h.stop⟩, [h.char], rest)
        | '&' => (CharacterReference.read? gs).map fun (value, rest) =>
          (⟨g.start, g.stop⟩, value, rest)
        | _ => none
      match decoded with
      | some (span, value, rest) => .decoded span value :: attributePieces fuel rest
      | none => .plain [g] :: attributePieces fuel gs

/-- The value of an attribute such as the target or title of a link: escapes and references are
decoded, and blanks around line ends are dropped. A line without any text is not broken, so that its
line end stays. -/
def attributeValue (gs : List Glyph) : String :=
  let pieces := Inline.merge (attributePieces gs.length gs)
  let pieces := match Inline.trim false false pieces with
    | .break _ :: rest => rest
    | pieces => pieces
  String.ofList (Inline.text pieces)

end ProseLinter.Markdown
