import ProseLinter.Markdown.Attention
import ProseLinter.Markdown.Autolink
import ProseLinter.Markdown.Html
import ProseLinter.Markdown.Target

/-!
# Phrasing

Running text is read from left to right. Code, HTML, links to addresses, escapes and references are
recognized where they begin. A bracket is kept open until the bracket that closes it, which decides
whether both are a link, an image, a reference or plain characters. Attention is paired inside each
link and at last in the whole text.

* `Phrasing.read` gives the trees of a text.
-/

namespace ProseLinter.Markdown.Phrasing

/-- What the meaning of a text depends on besides its characters. -/
structure Env where
  references : References
  /-- Whether the text is in a table, where code writes a vertical bar with a backslash. -/
  inTable : Bool

/-- What an opening bracket may begin. -/
inductive Opening where
  | link
  | image
  | footnote
deriving DecidableEq

/-- A bracket that has not been closed. -/
structure Bracket where
  opening : Opening
  /-- The glyphs of the bracket itself. -/
  marks : List Glyph
  /-- The text after the bracket. -/
  inside : List Glyph
  /-- Whether it may still begin a link. -/
  active : Bool
  /-- The pieces before it, up to the bracket that is open around it, the last one first. -/
  outer : List Inline

/-- How far a text has been read. -/
structure Reader where
  /-- The open brackets, the innermost first. -/
  brackets : List Bracket
  /-- The pieces after the innermost open bracket, the last one first. -/
  pieces : List Inline

/-- Trees of pieces in which the attention is still to be paired. -/
def finish (inLink atStart atEnd : Bool) (pieces : List Inline) : List Tree :=
  let build (isWhole : Bool) (pieces : List Inline) : List Tree :=
    let pieces := Inline.trim (isWhole && atStart) (isWhole && atEnd) (Inline.merge pieces)
    Inline.trees (if inLink then pieces else Inline.linkEmails pieces)
  build true (Inline.resolve (build false) pieces)

/-! ### Code -/

/-- The text of code up to a run of as many backticks as opened it, and what follows that run.
`ticks` holds the backticks that come just before, and `content` the text before these, both with
the last glyph first. -/
def codeEnd? (opening : Nat) (content ticks : List Glyph) :
    List Glyph → Option (List Glyph × List Glyph)
  | [] => if ticks.length == opening then some (content.reverse, []) else none
  | g :: gs =>
    if g.char == '\x60' then codeEnd? opening content (g :: ticks) gs
    else if ticks.length == opening then some (content.reverse, g :: gs)
    else codeEnd? opening (g :: (ticks ++ content)) [] gs

/-- The text without one blank at each end, when there is one at both ends and something else
between. -/
def stripOnce (cs : List Char) : List Char :=
  if 2 < cs.length && cs.head? == some ' ' && cs.getLast? == some ' ' && cs.any (· != ' ') then
    cs.tail.dropLast
  else cs

/-- The text with vertical bars written without their backslashes. -/
def unescapeBars : List Char → List Char
  | '\\' :: '|' :: cs => '|' :: unescapeBars cs
  | c :: cs => c :: unescapeBars cs
  | [] => []

/-- Reads code after its opening backticks. -/
def code? (env : Env) (ticks gs : List Glyph) : Option (Tree × List Glyph) := do
  let (content, rest) ← codeEnd? ticks.length [] [] gs
  let text := stripOnce (glyphText content)
  let text := if env.inTable then unescapeBars text else text
  let code := ticks ++ glyphsBefore rest gs
  some (.leaf (.inlineCode (String.ofList text)) (Inline.spanOf code), rest)

/-! ### Brackets -/

/-- The pieces of an open bracket that turns out to be plain, and of the text after it. -/
def looseBracket (b : Bracket) (pieces : List Inline) : List Inline :=
  pieces ++ Inline.plain b.marks :: b.outer

/-- The pieces of a text whose open brackets turn out to be plain. -/
def looseBrackets (brackets : List Bracket) (pieces : List Inline) : List Inline :=
  brackets.foldl (fun pieces b => looseBracket b pieces) pieces

/-- What a closed pair of brackets refers to. -/
inductive Referent where
  | resource (url : String) (title : Option String)
  | reference
  | footnote

/-- What a pair of brackets around `label` refers to, given what follows the closing bracket
`close`: the referent, the offset at which the whole construct stops, and the rest. -/
def referent? (env : Env) (b : Bracket) (label : List Glyph) (close : Glyph) (gs : List Glyph) :
    Option (Referent × Nat × List Glyph) :=
  let id := identifier label
  if b.opening == .footnote && env.references.hasFootnote id then
    some (.footnote, close.stop, gs)
  else
    -- The caret of an unknown footnote is part of the label.
    let id := if b.opening == .footnote then identifier (b.marks.drop 1 ++ label) else id
    let isDefined := env.references.hasTarget id
    let shortcut? := if isDefined then some (Referent.reference, close.stop, gs) else none
    let stopBefore (rest : List Glyph) : Nat :=
      (Inline.spanOf (glyphsBefore rest gs)).stop
    match expect? '(' gs with
    | some rest =>
      match resource? rest with
      | some (url, title, rest) => some (.resource url title, stopBefore rest, rest)
      | none => shortcut?
    | none =>
      match expect? '[' gs with
      | none => shortcut?
      | some rest =>
        let full? := do
          let (label, rest) ← label? rest
          if env.references.hasTarget (identifier label) then some rest else none
        match full? with
        | some rest => some (.reference, stopBefore rest, rest)
        | none =>
          if isDefined then
            (expect? ']' rest).map fun rest => (.reference, stopBefore rest, rest)
          else none

/-- The tree of a pair of brackets. -/
def bracketTree (b : Bracket) (referent : Referent) (span : Span) (pieces : List Inline) : Tree :=
  -- The caret of an unknown footnote is part of the text of the link.
  let caret := if b.opening == .footnote then Inline.ofGlyphs (b.marks.drop 1) else []
  let children := finish true false false (caret ++ pieces.reverse)
  match b.opening, referent with
  | .image, .resource url title => .leaf (.image url title) span
  | .image, _ => .leaf .imageReference span
  | _, .resource url title => .container (.link url title) span children
  | _, .reference => .container .linkReference span children
  | _, .footnote => .leaf .footnoteReference span

/-- Brackets around a link can begin no link any more. -/
def deactivate (b : Bracket) : Bracket :=
  if b.opening == .image then b else { b with active := false }

/-- Reads a closing bracket: what it closes becomes a tree if it refers to something. -/
def closeBracket (env : Env) (r : Reader) (close : Glyph) (gs : List Glyph) :
    Reader × List Glyph :=
  let plain : Inline := .plain [close]
  match r.brackets with
  | [] => ({ r with pieces := plain :: r.pieces }, gs)
  | b :: brackets =>
    let label := b.inside.takeWhile (·.start < close.start)
    match if b.active then referent? env b label close gs else none with
    | none => ({ r with brackets, pieces := plain :: looseBracket b r.pieces }, gs)
    | some (referent, stop, rest) =>
      let span : Span := ⟨(Inline.spanOf b.marks).start, stop⟩
      let tree := bracketTree b referent span r.pieces
      let brackets := if b.opening == .image then brackets else brackets.map deactivate
      ({ r with brackets, pieces := .tree tree :: b.outer }, rest)

/-- Opens a bracket that consists of the given glyphs. -/
def openBracket (r : Reader) (opening : Opening) (marks inside : List Glyph) : Reader :=
  { r with
    brackets := ⟨opening, marks, inside, true, r.pieces⟩ :: r.brackets
    pieces := [] }

/-! ### Reading -/

/-- The character before a glyph that is read next, which is that of a block prefix where one stands
before it; none at the start of the text. -/
def Reader.previous (r : Reader) (g : Glyph) : Option Char :=
  match r.brackets, r.pieces with
  | [], [] => none
  | _, _ => g.before

/-- Adds pieces, given in order, after those read so far. -/
def Reader.add (r : Reader) (pieces : List Inline) : Reader :=
  { r with pieces := pieces.reverse ++ r.pieces }

/-- Reads the next construct: the glyph `g` and as many of those after it as belong to it. -/
def step (env : Env) (r : Reader) (g : Glyph) (gs : List Glyph) : Reader × List Glyph :=
  let plain := (r.add [.plain [g]], gs)
  let orPlain (found : Option (Tree × List Glyph)) : Reader × List Glyph :=
    match found with
    | some (tree, rest) => (r.add [.tree tree], rest)
    | none => plain
  match g.char with
  | '\n' => (r.add [.ending g], gs)
  | '\r' => (r.add [.ending g], gs)
  | '\\' =>
    match escaped? gs with
    | some (h, rest) => (r.add [.decoded ⟨h.start, h.stop⟩ [h.char]], rest)
    | none =>
      match gs with
      | h :: rest => if h.isEnding then (r.add [.break g.start, .ending h], rest) else plain
      | [] => plain
  | '&' =>
    match CharacterReference.read? gs with
    | some (value, rest) =>
      let stop := (Inline.spanOf (glyphsBefore rest gs)).stop
      (r.add [.decoded ⟨g.start, stop⟩ value], rest)
    | none => plain
  | '\x60' =>
    let (ticks, rest) := spanChars (· == '\x60') gs
    match code? env (g :: ticks) rest with
    | some (tree, rest) => (r.add [.tree tree], rest)
    | none => (r.add [.plain (g :: ticks)], rest)
  | '<' =>
    match Autolink.enclosed? g gs with
    | some (tree, rest) => (r.add [.tree tree], rest)
    | none =>
      match Html.inline? gs with
      | some rest =>
        let html := g :: glyphsBefore rest gs
        let text := String.ofList (Html.inlineText html)
        (r.add [.tree (.leaf (.html text) (Inline.spanOf html))], rest)
      | none => plain
  | '!' =>
    match gs with
    | h :: rest =>
      if h.char == '[' && (expect? '^' rest).isNone then
        (openBracket r .image [g, h] rest, rest)
      else plain
    | [] => plain
  | '[' =>
    match gs with
    | h :: rest =>
      if h.char == '^' then (openBracket r .footnote [g, h] rest, rest)
      else (openBracket r .link [g] gs, gs)
    | [] => (openBracket r .link [g] gs, gs)
  | ']' => closeBracket env r g gs
  | c =>
    if isAttentionMarker c then
      let (more, rest) := spanChars (· == c) gs
      (r.add [.run (Run.ofGlyphs c (g :: more))], rest)
    else if c.toLower == 'h' || c.toLower == 'w' then
      orPlain (Autolink.literal? (r.previous g) (g :: gs))
    else plain

/-- Reads the rest of a text; `fuel` is at least the number of its glyphs. -/
def readFrom (env : Env) (r : Reader) : (fuel : Nat) → List Glyph → List Inline
  | 0, _ => (looseBrackets r.brackets r.pieces).reverse
  | _, [] => (looseBrackets r.brackets r.pieces).reverse
  | fuel + 1, g :: gs =>
    let (r, rest) := step env r g gs
    readFrom env r fuel rest

/-- The trees of a text. Blanks at its start are dropped unless `keepsStart` says otherwise. -/
def read (env : Env) (keepsStart : Bool) (gs : List Glyph) : List Tree :=
  finish false (!keepsStart) true (readFrom env ⟨[], []⟩ gs.length gs)

end ProseLinter.Markdown.Phrasing
