import ProseLinter.Markdown.Block

/-!
# Lists of items

Items that follow one another form a list as long as they have the same mark. An item that follows
another one without even a line end between them begins a list inside the list.

* `ItemList.join` finds the lists among blocks.
-/

namespace ProseLinter.Markdown

/-- Whether items with a mark are numbered. -/
def isNumbering (marker : Char) : Bool :=
  marker == '.' || marker == ')'

/-- A list whose end has not been found. -/
structure ItemList where
  /-- The mark of the first item. -/
  marker : Char
  start : Nat
  /-- The finished items, the last one first. -/
  items : List Block
  /-- The items that followed one another at once, the last one first, and their marks. -/
  run : List Block
  marks : List Char

namespace ItemList

/-- The list that begins with an item. -/
def ofItem (marker : Char) (b : Block) : ItemList :=
  ⟨marker, b.span.start, [], [b], [marker]⟩

/-- Items that follow one another at once: all but the first are in a list of their own. -/
def nested (stop : Nat) : List Block → List Block
  | [] => []
  | [b] => [b]
  | a :: b :: bs =>
    let isNumbered := match b.itemMark? with
      | some marker => isNumbering marker
      | none => false
    [a, .list isNumbered ⟨b.span.start, stop⟩ (nested stop (b :: bs))]

/-- The offset at which a list stops. -/
def stop (l : ItemList) : Nat :=
  match l.run with
  | b :: _ => b.span.stop
  | [] => l.start

/-- The finished items, the last one first, when no further item follows the last one at once. -/
def finished (l : ItemList) : List Block :=
  (nested l.stop l.run.reverse).reverse ++ l.items

/-- The block of a list. -/
def block (l : ItemList) : Block :=
  .list (isNumbering l.marker) ⟨l.start, l.stop⟩ l.finished.reverse

/-- Puts a list, if one is open, on top of the blocks before it. -/
def endList (open? : Option ItemList) (done : List Block) : List Block :=
  match open? with
  | some l => l.block :: done
  | none => done

/-- Joins the items among blocks to lists. `open?` is the list of the items just before, and `done`
holds what comes before that, the last one first. The blocks come with whether they follow the one
before at once. -/
def join (done : List Block) (open? : Option ItemList) : List (Bool × Block) → List Block
  | [] => (endList open? done).reverse
  | (isNext, b) :: rest =>
    match b.itemMark?, open? with
    | none, _ => join (b :: endList open? done) none rest
    | some c, none => join done (some (ofItem c b)) rest
    | some c, some l =>
      if isNext then join done (some { l with run := b :: l.run, marks := c :: l.marks }) rest
      else if l.marks.contains c then
        join done (some { l with items := l.finished, run := [b], marks := [c] }) rest
      else join (endList open? done) (some (ofItem c b)) rest

end ItemList

end ProseLinter.Markdown
