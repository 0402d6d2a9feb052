import ProseLinter.Markdown.Inline

/-!
# Attention

Runs of asterisks, underscores and tildes pair up as openers and closers of emphasis, strong
emphasis and deletions. Closers are taken in order, and each looks back for the nearest opener that
fits; runs between the two then open nothing more.

* `Run.ofGlyphs` decides from the characters around a run whether it may open or close.
* `resolve` pairs the runs; what is left of them is text.
-/

namespace ProseLinter.Markdown

/-- How the character beside a run of markers counts. -/
inductive Neighbor where
  | space
  | punctuation
  | other
deriving DecidableEq

/-- The class of the character beside a run; the ends of the text count as space. -/
def Neighbor.ofChar? : Option Char → Neighbor
  | none => space
  | some c =>
    if Text.isBlank c then space else if Text.isPunctuation c then punctuation else other

/-- Whether a character is an attention marker. -/
def isAttentionMarker (c : Char) : Bool :=
  c == '*' || c == '_' || c == '~'

namespace Run

/-- Whether a run may open when `inner` follows it and `outer` precedes it; the same test tells
whether it may close when the two change places. Runs of other markers beside it do not matter to
emphasis. -/
def faces (marker : Char) (inner outer : Option Char) : Bool :=
  let innerClass := Neighbor.ofChar? inner
  innerClass == .other
    || (innerClass == .punctuation && Neighbor.ofChar? outer != .other)
    || (marker != '~' && inner.any isAttentionMarker)

/-- The run of the given markers. Underscores inside a word neither open nor close. -/
def ofGlyphs (marker : Char) (gs : List Glyph) : Run :=
  let before := gs.head?.bind (·.before)
  let after := gs.getLast?.bind (·.after)
  let opens := faces marker after before
  let closes := faces marker before after
  if marker == '_' then
    { marker
      glyphs := gs
      opens := opens && (Neighbor.ofChar? before != .other || !closes)
      closes := closes && (Neighbor.ofChar? after != .other || !opens) }
  else { marker, glyphs := gs, opens, closes }

/-- The number of markers of a run. -/
def size (r : Run) : Nat :=
  r.glyphs.length

/-- Whether an opener and a closer fit. When one of them could be the other, the sum of their sizes
must not be a multiple of three unless both sizes are. Tildes need the same number, one or two. -/
def fits (opener closer : Run) : Bool :=
  opener.opens && opener.marker == closer.marker
    && !((opener.closes || closer.opens) && closer.size % 3 != 0
      && (opener.size + closer.size) % 3 == 0)
    && !(closer.marker == '~' && (closer.size != opener.size || 2 < closer.size))

/-- How many markers an opener and a closer use up. -/
def taken (opener closer : Run) : Nat :=
  if 1 < opener.size && 1 < closer.size then 2 else 1

/-- The kind of span between markers. -/
def kind (marker : Char) (taken : Nat) : Container :=
  if marker == '~' then .delete else if taken == 1 then .emphasis else .strong

end Run

namespace Inline

/-- A run as a piece, unless nothing is left of it. -/
def ofRun (r : Run) : List Inline :=
  if r.glyphs.isEmpty then [] else [.run r]

/-- Finds the nearest opener that fits in the pieces before a closer, the last one first: the
pieces between, in order, the opener, and the pieces before it. -/
def findOpener (closer : Run) (between : List Inline) :
    List Inline → Option (List Inline × Run × List Inline)
  | [] => none
  | .run r :: rest =>
    if r.fits closer then some (between, r, rest)
    else findOpener closer (.run r :: between) rest
  | p :: rest => findOpener closer (p :: between) rest

/-- Pairs a closer with openers before it as often as possible. `build` makes the trees of the
pieces between. Gives the pieces before and what is left of the closer. -/
def closeRun (build : List Inline → List Tree) (before : List Inline) (closer : Run) :
    (fuel : Nat) → List Inline × Run
  | 0 => (before, closer)
  | fuel + 1 =>
    match if closer.glyphs.isEmpty then none else findOpener closer [] before with
    | none => (before, closer)
    | some (between, opener, rest) =>
      let n := opener.taken closer
      let left := opener.size - n
      let start := (spanOf (opener.glyphs.drop left)).start
      let stop := (spanOf (closer.glyphs.take n)).stop
      let node := Tree.container (Run.kind closer.marker n) (some ⟨start, stop⟩) (build between)
      let opener := { opener with glyphs := opener.glyphs.take left }
      let closer := { closer with glyphs := closer.glyphs.drop n }
      closeRun build (.tree node :: (ofRun opener ++ rest)) closer fuel

/-- Pairs the runs of pieces; `before` holds the pieces already seen, the last one first. -/
def resolveFrom (build : List Inline → List Tree) (before : List Inline) :
    List Inline → List Inline
  | [] => before.reverse
  | .run r :: rest =>
    if r.closes then
      let (before, r) := closeRun build before r r.size
      resolveFrom build (ofRun r ++ before) rest
    else resolveFrom build (.run r :: before) rest
  | p :: rest => resolveFrom build (p :: before) rest

/-- Pairs the runs of pieces. -/
def resolve (build : List Inline → List Tree) (pieces : List Inline) : List Inline :=
  resolveFrom build [] pieces

end Inline

end ProseLinter.Markdown
