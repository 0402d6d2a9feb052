import ProseLinter.Markdown.Glyph
import ProseLinter.Text.LowerCase

/-!
# HTML in Markdown

HTML is taken over as it stands. Inside running text it is one tag, comment, instruction,
declaration or CDATA section.

* `Html.TagState` reads a tag character by character.
* `Html.inline?` reads HTML inside running text.
-/

namespace ProseLinter.Markdown.Html

/-! ### Tags -/

/-- Where a reader of a tag is. -/
inductive TagState where
  /-- Right after the opening angle bracket. -/
  | start
  | closingStart
  | closingName
  | closingEnd
  | name
  | betweenAttributes
  | selfClosing
  | attributeName
  | afterAttributeName
  | beforeValue
  | quotedValue (mark : Char)
  | afterQuotedValue
  | bareValue
  | done
deriving DecidableEq, Repr

/-- Whether a character counts as a blank or a line end in a tag. -/
def isTagSpace (c : Char) : Bool :=
  c == ' ' || c == '\t' || c == '\n' || c == '\r'

/-- Whether a character may stand in the name of a tag. -/
def isTagNameChar (c : Char) : Bool :=
  c.isAlphanum || c == '-'

/-- Whether a character may begin the name of an attribute. -/
def isAttributeStart (c : Char) : Bool :=
  c.isAlpha || c == ':' || c == '_'

/-- Whether a character may stand in the name of an attribute. -/
def isAttributeChar (c : Char) : Bool :=
  isAttributeStart c || c.isDigit || c == '-' || c == '.'

namespace TagState

/-- The state after a character where only the end of the tag may come. -/
def atEnd (c : Char) : Option TagState :=
  if c == '>' then some done else none

/-- The state after a character between attributes. -/
def atBetween (c : Char) : Option TagState :=
  if isTagSpace c then some betweenAttributes
  else if c == '/' then some selfClosing
  else if isAttributeStart c then some attributeName
  else atEnd c

/-- The state after a character behind the name of an attribute. -/
def atAfterName (c : Char) : Option TagState :=
  if isTagSpace c then some afterAttributeName
  else if c == '=' then some beforeValue
  else atBetween c

/-- The state after one more character. -/
def next? (c : Char) : TagState → Option TagState
  | start => if c == '/' then some closingStart else if c.isAlpha then some name else none
  | closingStart => if c.isAlpha then some closingName else none
  | closingName =>
    if isTagNameChar c then some closingName
    else if isTagSpace c then some closingEnd
    else atEnd c
  | closingEnd => if isTagSpace c then some closingEnd else atEnd c
  | name =>
    if isTagNameChar c then some name
    else if isTagSpace c || c == '/' || c == '>' then atBetween c
    else none
  | betweenAttributes => atBetween c
  | selfClosing => atEnd c
  | attributeName => if isAttributeChar c then some attributeName else atAfterName c
  | afterAttributeName => atAfterName c
  | beforeValue =>
    if c == '<' || c == '=' || c == '>' || c == '\x60' then none
    else if isTagSpace c then some beforeValue
    else if c == '"' || c == '\'' then some (quotedValue c)
    else some bareValue
  | quotedValue mark => some (if c == mark then afterQuotedValue else quotedValue mark)
  | afterQuotedValue =>
    if isTagSpace c || c == '/' || c == '>' then atBetween c else none
  | bareValue =>
    if c == '"' || c == '\'' || c == '<' || c == '=' || c == '\x60' then none
    else if isTagSpace c || c == '/' || c == '>' then atBetween c
    else some bareValue
  | done => none

end TagState

/-- Reads a tag from a state inside it to its end, and gives what follows. -/
def tag? (state : TagState) : List Glyph → Option (List Glyph)
  | [] => none
  | g :: gs =>
    match state.next? g.char with
    | some .done => some gs
    | some state => tag? state gs
    | none => none

/-! ### Inside running text -/

/-- The glyphs after the first occurrence of some characters. -/
def after? (mark : List Char) : List Glyph → Option (List Glyph)
  | [] => none
  | g :: gs =>
    match expectAll? mark (g :: gs) with
    | some rest => some rest
    | none => after? mark gs

/-- The glyphs after a comment whose opening has been read. -/
def comment? (gs : List Glyph) : Option (List Glyph) :=
  match expect? '>' (gs.dropWhile (·.char == '-')) with
  | some rest => some rest
  | none => after? ['-', '-', '>'] gs

/-- What follows the HTML that begins after an opening angle bracket. -/
def inline? (gs : List Glyph) : Option (List Glyph) :=
  match expectAll? ['!', '-', '-'] gs with
  | some rest => comment? rest
  | none =>
    match expectAll? "![CDATA[".toList gs with
    | some rest => after? [']', ']', '>'] rest
    | none =>
      match expect? '!' gs with
      | some rest =>
        match rest with
        | g :: rest => if g.char.isAlpha then after? ['>'] rest else none
        | [] => none
      | none =>
        match expect? '?' gs with
        | some rest => after? ['?', '>'] rest
        | none => tag? .start gs

/-- The text of HTML inside running text: blanks at the start of its further lines are dropped. -/
def inlineText : List Glyph → List Char
  | [] => []
  | g :: gs =>
    if g.isEnding then
      g.text ++ inlineText (gs.dropWhile Glyph.isBlank)
    else g.text ++ inlineText gs
termination_by gs => gs.length
decreasing_by
  · simp only [List.length_cons]
    have := (List.dropWhile_sublist Glyph.isBlank (l := gs)).length_le
    omega
  · simp

end ProseLinter.Markdown.Html
