import ProseLinter.Markdown.Target

/-!
# Definitions

A definition gives a label a target and possibly a title. Definitions stand at the start of running
text, each on lines of its own.

* `Definition.takeAll` takes the definitions off the start of a text.
-/

namespace ProseLinter.Markdown

/-- A definition of the target of references. -/
structure Definition where
  span : Span
  identifier : List Char
deriving Repr

namespace Definition

/-- The glyphs after blanks up to the end of a line, when nothing else is left on the line. -/
def restOfLine? (gs : List Glyph) : Option (List Glyph) :=
  match skipBlanks gs with
  | [] => some []
  | g :: gs => if g.isEnding then some (g :: gs) else none

/-- The rest after a title that fills its line, if there is one, else after the target. -/
def afterTarget? (gs : List Glyph) : Option (List Glyph) :=
  let afterTitle? :=
    if startsWithSpace gs then (title? (skipLine gs)).bind fun (_, rest) => restOfLine? rest
    else none
  afterTitle?.or (restOfLine? gs)

/-- Reads a definition: its identifier, and the rest from the line end after it on. -/
def read? (gs : List Glyph) : Option (List Char × List Glyph) := do
  let rest ← expect? '[' (skipBlanks gs)
  let (label, rest) ← label? rest
  let rest ← expect? ':' rest
  let (_, rest) ← target? rest.length (skipLine rest)
  let rest ← afterTarget? rest
  some (Markdown.identifier label, rest)

/-- Takes definitions off the start of a text that stops at the offset `stop`, each with the line
end after it; `fuel` is at least the number of glyphs. -/
def takeAll (stop : Nat) :
    (fuel : Nat) → List Glyph → List (Definition × Option Glyph) × List Glyph
  | 0, gs => ([], gs)
  | fuel + 1, gs =>
    match gs, read? gs with
    | first :: _, some (id, rest) =>
      match rest with
      | [] => ([(⟨⟨first.start, stop⟩, id⟩, none)], [])
      | ending :: rest =>
        let (more, rest) := takeAll stop fuel rest
        ((⟨⟨first.start, ending.start⟩, id⟩, some ending) :: more, rest)
    | _, _ => ([], gs)

end Definition

end ProseLinter.Markdown
