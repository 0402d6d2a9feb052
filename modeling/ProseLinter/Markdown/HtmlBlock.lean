import ProseLinter.Markdown.Block
import ProseLinter.Markdown.Html

/-!
# Blocks of HTML

A block of HTML begins with one of seven conditions and lasts until the end that belongs to the
condition.

* `Html.start` decides whether a line begins a block of HTML.
* `Html.Kind.endsIn` decides whether a line ends it.
-/

namespace ProseLinter.Markdown.Html

/-! ### Kinds and their ends -/

/-- The conditions under which a block of HTML begins. -/
inductive Kind where
  /-- An element whose content is no HTML. -/
  | raw
  | comment
  | instruction
  | declaration
  | cdata
  /-- An element that is known to be a block. -/
  | basic
  /-- Any other tag that fills its line. -/
  | complete
deriving DecidableEq, Repr

/-- The names of the elements whose content is no HTML. -/
def rawNames : List String :=
  ["pre", "script", "style", "textarea"]

/-- The names of the elements that are blocks. -/
def blockNames : List String :=
  ["address", "article", "aside", "base", "basefont", "blockquote", "body", "caption", "center",
   "col", "colgroup", "dd", "details", "dialog", "dir", "div", "dl", "dt", "fieldset",
   "figcaption", "figure", "footer", "form", "frame", "frameset", "h1", "h2", "h3", "h4", "h5",
   "h6", "head", "header", "hr", "html", "iframe", "legend", "li", "link", "main", "menu",
   "menuitem", "nav", "noframes", "ol", "optgroup", "option", "p", "param", "search", "section",
   "summary", "table", "tbody", "td", "tfoot", "th", "thead", "title", "tr", "track", "ul"]

/-- The name of a tag in small letters. -/
def tagName (gs : List Glyph) : String :=
  String.ofList (Text.asciiLower (gs.map (·.char)))

namespace Kind

/-- Whether a line ends the content of a raw element: it holds the closing tag of any of them. -/
def endsRaw : List Glyph → Bool
  | [] => false
  | g :: gs =>
    let closes := match expectAll? ['<', '/'] (g :: gs) with
      | some rest =>
        let (name, rest) := spanChars isTagNameChar rest
        rawNames.contains (tagName name) && (expect? '>' rest).isSome
      | none => false
    closes || endsRaw gs

/-- Whether a line ends a CDATA section. Closing brackets are read in pairs. -/
def endsCdata : List Glyph → Bool
  | [] => false
  | [_] => false
  | g :: h :: gs =>
    if g.char == ']' then
      if h.char == ']' then (expect? '>' gs).isSome || endsCdata gs
      else endsCdata (h :: gs)
    else endsCdata (h :: gs)

/-- Whether a line, or what is left of it after the start of the block, ends a block of the
kind. -/
def endsIn (kind : Kind) (gs : List Glyph) : Bool :=
  match kind with
  | raw => endsRaw gs
  | comment => (after? ['-', '-', '>'] gs).isSome
  | instruction => (after? ['?', '>'] gs).isSome
  | declaration => (after? ['>'] gs).isSome
  | cdata => endsCdata gs
  | basic => false
  | complete => false

/-- Whether a blank line ends a block of the kind. -/
def endsBeforeBlank : Kind → Bool
  | basic => true
  | complete => true
  | _ => false

end Kind

/-! ### Starts -/

/-- What a line comes to as the start of a block of HTML. -/
inductive Start where
  /-- Some character does not fit. -/
  | refused
  /-- The line ends before the start is complete. -/
  | cutOff
  /-- The line begins a block, which may end on the same line. -/
  | begins (kind : Kind) (ended : Bool)
deriving DecidableEq, Repr

/-- The state after one more character of a tag that is to fill its line: what follows a value
without quotation marks is read as what follows a name. -/
def TagState.nextInLine? (c : Char) : TagState → Option TagState
  | bareValue =>
    if isTagSpace c || "\"'/<=>\x60".toList.contains c then atAfterName c else some bareValue
  | state => state.next? c

/-- Reads a tag that fills the rest of its line from a state inside it. -/
def fillingTag (state : TagState) : List Glyph → Start
  | [] => .cutOff
  | g :: gs =>
    match state.nextInLine? g.char with
    | some .done => if gs.all Glyph.isBlank then .begins .complete false else .refused
    | some state => fillingTag state gs
    | none => .refused

/-- What a name and the glyphs after it come to as a tag. -/
def namedTag (interrupts isClosing : Bool) (name : String) (rest : List Glyph) : Start :=
  let hasSlash := (expect? '/' rest).isSome
  if rawNames.contains name && !isClosing && !hasSlash then .begins .raw (Kind.endsIn .raw rest)
  else if blockNames.contains name then
    match rest with
    | [_] => if hasSlash then .cutOff else .begins .basic false
    | _ =>
      if hasSlash && (expectAll? ['/', '>'] rest).isNone then .refused else .begins .basic false
  else if interrupts then .refused
  else fillingTag (if isClosing then .closingName else .name) rest

/-- What the glyphs after the opening angle bracket of a tag come to. A tag that only fills its line
does not interrupt a paragraph; `asClosing` has an opening tag read as a closing one. -/
def tagStart (interrupts asClosing : Bool) (gs : List Glyph) : Start :=
  let (isClosing, gs) := match expect? '/' gs with
    | some rest => (true, rest)
    | none => (asClosing, gs)
  match gs with
  | [] => .cutOff
  | g :: _ =>
    let (name, rest) := spanChars isTagNameChar gs
    let isEnded := match rest with
      | [] => true
      | h :: _ => h.isBlank || h.char == '/' || h.char == '>'
    if g.char.isAlpha && isEnded then namedTag interrupts isClosing (tagName name) rest
    else .refused

/-- What glyphs come to that have to be the characters `mark` and then the content of a CDATA
section. -/
def cdataStart : (mark : List Char) → List Glyph → Start
  | [], gs => .begins .cdata (Kind.endsIn .cdata gs)
  | _ :: _, [] => .cutOff
  | c :: cs, g :: gs => if g.char == c then cdataStart cs gs else .refused

/-- What the glyphs after an opening angle bracket and an exclamation mark come to. -/
def declarationStart : List Glyph → Start
  | [] => .cutOff
  | g :: gs =>
    if g.char == '-' then
      match gs with
      | [] => .cutOff
      | h :: rest => if h.char == '-' then .begins .comment (comment? rest).isSome else .refused
    else if g.char == '[' then cdataStart "CDATA[".toList gs
    else if g.char.isAlpha then .begins .declaration (Kind.endsIn .declaration gs)
    else .refused

/-- What a line comes to as the start of a block of HTML. -/
def start (interrupts asClosing : Bool) (gs : List Glyph) : Start :=
  match expect? '<' (skipColumns maxIndentation gs) with
  | none => .refused
  | some [] => .cutOff
  | some (g :: gs) =>
    if g.char == '!' then declarationStart gs
    else if g.char == '?' then
      .begins .instruction ((expect? '>' gs).isSome || Kind.endsIn .instruction gs)
    else tagStart interrupts asClosing (g :: gs)

/-- Whether a line looks like a tag from its first characters. -/
def looksLikeTag (gs : List Glyph) : Bool :=
  match expect? '<' (skipColumns maxIndentation gs) with
  | some (g :: _) => g.char == '/' || g.char.isAlpha
  | _ => false

end ProseLinter.Markdown.Html
