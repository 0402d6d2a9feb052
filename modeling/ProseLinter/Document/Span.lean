import ProseLinter.Text.Slice

/-!
# Spans and positions

A span is a range of byte offsets. A position is a line and a column, both counted from one, the
column in characters.

* `LineIndex.countedPosition` leads from a byte offset to a position: an offset past the end counts
  as the end, and one inside a character as the start of that character.
* `LineIndex.position` is that position with a line and a column of 32 bits.
* `LineIndex.lineCount_ofText` : there is one line more than there are newlines.
-/

namespace ProseLinter

/-- A range of byte offsets, from `start` up to but not including `stop`. -/
structure Span where
  start : Nat
  stop : Nat
deriving DecidableEq, Repr, Inhabited

namespace Span

/-- The offsets of a span are below this: they have 32 bits. -/
def limit : Nat := Nat.pow 2 32

/-- The number of bytes of a span; none when it ends before it starts. -/
def length (s : Span) : Nat :=
  s.stop - s.start

/-- Whether a span holds no byte. -/
def isEmpty (s : Span) : Bool :=
  s.stop ≤ s.start

/-- Whether an offset lies in a span. -/
def contains (s : Span) (offset : Nat) : Bool :=
  s.start ≤ offset && offset < s.stop

/-- The span moved on by so many bytes. -/
def shift (s : Span) (bytes : Nat) : Span :=
  ⟨s.start + bytes, s.stop + bytes⟩

/-- The span of so many bytes that starts at an offset counted from the start of a span. -/
def part (s : Span) (start length : Nat) : Span :=
  ⟨s.start + start, s.start + start + length⟩

end Span

/-- A line and a column, counted from one. -/
structure Position where
  line : Nat
  column : Nat
deriving DecidableEq, Repr

/-- The position with the lowest 32 bits of its line and of its column. -/
def Position.wrapped (p : Position) : Position :=
  ⟨p.line % Span.limit, p.column % Span.limit⟩

/-- A line of a text: the offset at which it starts and its characters without the newline. -/
structure Line where
  start : Nat
  chars : List Char

/-- The lines of a text in order. -/
structure LineIndex where
  lines : List Line

namespace LineIndex

/-- The lines of the rest of a text that begins at offset `at`, inside a line that starts at
`start`; `current` holds the line's characters so far and `done` the lines before it, both with
the last one first. -/
def linesFrom (done : List Line) (start : Nat) (current : List Char) (offset : Nat) :
    List Char → List Line
  | [] => (⟨start, current.reverse⟩ :: done).reverse
  | c :: cs =>
    let next := offset + c.utf8Size
    if c == '\n' then linesFrom (⟨start, current.reverse⟩ :: done) next [] next cs
    else linesFrom done start (c :: current) next cs

/-- The lines of a text. -/
def ofText (text : List Char) : LineIndex :=
  ⟨linesFrom [] 0 [] 0 text⟩

/-- The number of lines, at least one. -/
def lineCount (index : LineIndex) : Nat :=
  index.lines.length

theorem length_linesFrom (done : List Line) (start : Nat) (current : List Char) (offset : Nat)
    (cs : List Char) :
    (linesFrom done start current offset cs).length = done.length + 1 + cs.count '\n' := by
  induction cs generalizing done start current offset with
  | nil => simp [linesFrom]
  | cons c cs ih =>
    rw [linesFrom]
    split
    · simp_all
      omega
    · simp_all

/-- There is one line more than there are newlines. -/
theorem lineCount_ofText (text : List Char) : (ofText text).lineCount = text.count '\n' + 1 := by
  simp [lineCount, ofText, length_linesFrom, Nat.add_comm]

/-- How many characters end within the first `bytes` bytes, counted on from `count`. -/
def charsWithin (count bytes : Nat) : List Char → Nat
  | [] => count
  | c :: cs =>
    if c.utf8Size ≤ bytes then charsWithin (count + 1) (bytes - c.utf8Size) cs else count

/-- The position of a byte offset as it is counted: its line is the last one that starts at or before
it, and its column counts the characters of that line that end at or before it. -/
def countedPosition (index : LineIndex) (offset : Nat) : Position :=
  let before := index.lines.takeWhile (·.start ≤ offset)
  match before.getLast? with
  | some line => ⟨before.length, charsWithin 1 (offset - line.start) line.chars⟩
  | none => ⟨1, 1⟩

/-- The position of a byte offset: line and column have 32 bits, as the offset has, and behind the
greatest number they begin again at zero. -/
def position (index : LineIndex) (offset : Nat) : Position :=
  (index.countedPosition offset).wrapped

end LineIndex

end ProseLinter
