import ProseLinter.Markdown.Inline

/-!
# Automatic links

An address between angle brackets is a link to itself. So is an address in plain text that begins
with `http://`, `https://` or `www.`, up to punctuation that ends the sentence around it, and so is
an e-mail address.

* `Autolink.enclosed?` reads an address between angle brackets.
* `Autolink.literal?` reads an address in plain text, and `Autolink.splitEmails` finds the e-mail
  addresses in plain characters.
-/

namespace ProseLinter.Markdown

/-- A link whose text is the address itself. -/
def addressLink (span textSpan : Span) (url : List Char) (text : List Char) : Tree :=
  .container (.link (String.ofList url) none) span
    [.leaf (.text (String.ofList text)) textSpan]

namespace Autolink

/-! ### Between angle brackets -/

/-- Whether a character may stand in the first part of an e-mail address in angle brackets. -/
def isAddressChar (c : Char) : Bool :=
  c.isAlphanum || "#$%&'*+-/=?^_\x60\x7b|\x7d~.".toList.contains c

/-- Whether a character may stand in the scheme of an address. -/
def isSchemeChar (c : Char) : Bool :=
  c.isAlphanum || c == '+' || c == '-' || c == '.'

/-- The greatest length of a scheme. -/
def schemeSize : Nat := 32

/-- Reads an address with a scheme up to the closing angle bracket. -/
def withScheme? (gs : List Glyph) : Option (List Glyph × List Glyph) := do
  let (scheme, rest) := spanChars isSchemeChar gs
  let first ← scheme.head?
  if !first.char.isAlpha || scheme.length < 2 || schemeSize < scheme.length then none
  else
    let rest ← expect? ':' rest
    let (_, rest) := rest.span fun g =>
      !((0 < g.char.toNat && g.char.toNat ≤ 0x20) || g.char == '<' || g.char == '>'
        || g.char.toNat == 0x7F)
    let after ← expect? '>' rest
    some (glyphsBefore rest gs, after)

/-- The greatest length of a part of a domain. -/
def domainPartSize : Nat := 63

/-- Reads the domain of an e-mail address up to the closing angle bracket. The part being read has
`size` characters so far, the last of which was a dash if `dash` is true. -/
def emailDomain? (size : Nat) (dash : Bool) : List Glyph → Option (List Glyph)
  | [] => none
  | g :: gs =>
    if g.char.isAlphanum then
      if size < domainPartSize then emailDomain? (size + 1) false gs else none
    else if g.char == '-' && 0 < size then
      if size < domainPartSize then emailDomain? (size + 1) true gs else none
    else if size == 0 || dash then none
    else if g.char == '.' then emailDomain? 0 false gs
    else if g.char == '>' then some gs
    else none

/-- Reads an e-mail address up to the closing angle bracket. -/
def email? (gs : List Glyph) : Option (List Glyph × List Glyph) := do
  let (name, rest) := spanChars isAddressChar gs
  let rest ← expect? '@' rest
  if name.isEmpty then none
  else
    let after ← emailDomain? 0 false rest
    some ((glyphsBefore after gs).dropLast, after)

/-- Reads an address after its opening angle bracket `first`, and gives what follows its closing
one. -/
def enclosed? (first : Glyph) (gs : List Glyph) : Option (Tree × List Glyph) :=
  let link (scheme : List Char) (address rest : List Glyph) :=
    let text := glyphText address
    let inner := Inline.spanOf address
    (addressLink ⟨first.start, inner.stop + 1⟩ inner (scheme ++ text) text, rest)
  match withScheme? gs with
  | some (address, rest) => some (link [] address rest)
  | none => (email? gs).map fun (address, rest) => link "mailto:".toList address rest

/-! ### In plain text -/

/-- Whether the glyphs begin with punctuation that is not part of an address before it: such
marks up to white space, an opening angle bracket or the end. The end counts unless a bar closes the
text there. `inReference` is true after an ampersand and letters, and `last` is the glyph before. -/
def isTrail (inReference : Bool) (last : Glyph) : List Glyph → Bool
  | [] => !inReference && last.after.all Text.isBlank
  | g :: gs =>
    let c := g.char
    if inReference then
      if c.isAlpha then isTrail true g gs else c == ';' && isTrail false g gs
    else if "!\"')*,.:;?_~".toList.contains c then isTrail false g gs
    else if c == '&' then
      match gs with
      | h :: hs => h.char.isAlpha && isTrail true h hs
      | [] => false
    else if c == '<' then true
    else if c == ']' then
      match gs with
      | [] => true
      | h :: hs =>
        h.isSpace || h.char == '(' || h.char == '[' || isTrail false g (h :: hs)
    else Text.isBlank c

/-- Reads the domain of an address. An underscore must be in neither of the last two parts:
`underscore` is true when one is in the part being read, and `earlier` when one is in the part
before; `seen` is true after a letter or digit. -/
def domain? (seen underscore earlier : Bool) : List Glyph → Option (List Glyph)
  | [] => if seen && !underscore && !earlier then some [] else none
  | g :: gs =>
    let stop := if seen && !underscore && !earlier then some (g :: gs) else none
    if g.char == '.' || g.char == '_' then
      if isTrail false g (g :: gs) then stop
      else if g.char == '_' then domain? seen true earlier gs
      else domain? seen false underscore gs
    else if g.char == '-' then domain? seen underscore earlier gs
    else if Text.isBlank g.char || Text.isPunctuation g.char then stop
    else domain? true underscore earlier gs

/-- The rest after the path of an address. Of the parentheses, `opened` have been opened and
`closed` closed. -/
def afterPath (opened closed : Nat) : List Glyph → List Glyph
  | [] => []
  | g :: gs =>
    let c := g.char
    if c == '(' then afterPath (opened + 1) closed gs
    else if c == ')' && closed < opened then afterPath opened (closed + 1) gs
    else if "!\"&')*,.:;<?]_~".toList.contains c then
      if isTrail false g (g :: gs) then g :: gs
      else afterPath opened (if c == ')' then closed + 1 else closed) gs
    else if Text.isBlank c then g :: gs
    else afterPath opened closed gs

/-- Whether the letters of a list, in either case, begin the glyphs. -/
def startsWithIgnoringCase (letters : List Char) (gs : List Glyph) : Option (List Glyph) :=
  letters.foldlM (fun rest c => match rest with
    | g :: rest => if g.char.toLower == c then some rest else none
    | [] => none) gs

/-- The rest after an address with a scheme. -/
def webAddress? (previous : Option Char) (gs : List Glyph) : Option (List Glyph) :=
  if previous.any Char.isAlpha then none
  else do
    let rest ← (startsWithIgnoringCase "https://".toList gs).or
      (startsWithIgnoringCase "http://".toList gs)
    let rest ← domain? false false false rest
    some (afterPath 0 0 rest)

/-- The rest after an address that begins with `www.`. -/
def siteAddress? (previous : Option Char) (gs : List Glyph) : Option (List Glyph) :=
  if previous.all fun c => "\t\n\r (*_[]~".toList.contains c then do
    let rest ← startsWithIgnoringCase "www.".toList gs
    if rest.isEmpty then none
    else
      let rest ← domain? false false false gs
      some (afterPath 0 0 rest)
  else none

/-- Reads an address in plain text after the character `previous`. -/
def literal? (previous : Option Char) (gs : List Glyph) : Option (Tree × List Glyph) :=
  let link (scheme : List Char) (rest : List Glyph) :=
    let address := glyphsBefore rest gs
    let span := Inline.spanOf address
    let text := glyphText address
    (addressLink span span (scheme ++ text) text, rest)
  match webAddress? previous gs with
  | some rest => some (link [] rest)
  | none => (siteAddress? previous gs).map (link "http://".toList)

/-! ### E-mail addresses in plain text -/

/-- Whether a character may stand before the at sign. -/
def isNameChar (c : Char) : Bool :=
  c.isAlphanum || c == '+' || c == '-' || c == '.' || c == '_'

/-- The scheme that stands directly before an e-mail address, and what comes before the scheme;
both are given with the last glyph first. -/
def schemeBefore? (before : List Glyph) : Option (List Glyph × List Glyph) := do
  let rest ← expect? ':' before
  let (letters, rest) := spanChars Char.isAlphanum rest
  let scheme := letters.reverse.map (·.char.toLower)
  if scheme == "mailto".toList || scheme == "xmpp".toList then
    some (before.take (letters.length + 1), rest)
  else none

/-- Reads the domain after an at sign: a dot must be in it, and it must end with a letter. Slashes
may be in it where `slashes` is true. -/
def mailDomain? (slashes : Bool) (gs : List Glyph) : Option (List Glyph × List Glyph) :=
  let domain := go gs
  match domain.reverse with
  | last :: _ =>
    if domain.any (·.char == '.') && last.char.isAlpha then
      some (domain, gs.drop domain.length)
    else none
  | [] => none
where
  /-- The longest run of characters of a domain; a dot needs a letter or digit after it. -/
  go : List Glyph → List Glyph
    | [] => []
    | g :: gs =>
      if g.char.isAlphanum || g.char == '-' || g.char == '_' || (slashes && g.char == '/') then
        g :: go gs
      else if g.char == '.' then
        match gs with
        | h :: hs => if h.char.isAlphanum then g :: go (h :: hs) else []
        | [] => []
      else []

/-- Reads the e-mail address around an at sign, given the glyphs before it with the last one
first: the glyphs before the address, the address as a link, and the glyphs after it. -/
def emailAround? (before : List Glyph) (sign : Glyph) (after : List Glyph) :
    Option (List Glyph × Tree × List Glyph) :=
  let (name, rest) := spanChars isNameChar before
  if name.isEmpty || (rest.head?.any (·.char == '/')) then none
  else
    let scheme := schemeBefore? rest
    let isChat := scheme.any fun (letters, _) => letters.length == 5
    match mailDomain? isChat after with
    | none => none
    | some (domain, afterwards) =>
      let (letters, rest) := scheme.getD ([], rest)
      let address := letters.reverse ++ name.reverse ++ sign :: domain
      let span := Inline.spanOf address
      let text := glyphText address
      let url := if letters.isEmpty then "mailto:".toList ++ text else text
      some (rest, addressLink span span url text, afterwards)

/-- Cuts plain characters at the e-mail addresses in them; `before` holds those already seen, the
last one first, and `fuel` is at least the number of those left. -/
def splitEmails (before : List Glyph) : (fuel : Nat) → List Glyph → List Inline
  | _, [] => Inline.ofGlyphs before.reverse
  | 0, gs => Inline.ofGlyphs (before.reverse ++ gs)
  | fuel + 1, g :: gs =>
    if g.char == '@' then
      match emailAround? before g gs with
      | some (rest, link, afterwards) =>
        Inline.ofGlyphs rest.reverse ++ .tree link :: splitEmails [] fuel afterwards
      | none => splitEmails (g :: before) fuel gs
    else splitEmails (g :: before) fuel gs

end Autolink

/-- The pieces with the e-mail addresses in their plain characters as links. -/
def Inline.linkEmails (pieces : List Inline) : List Inline :=
  pieces.flatMap fun p => match p with
    | .plain gs =>
      if gs.any (·.char == '@') then Autolink.splitEmails [] gs.length gs else [.plain gs]
    | p => [p]

end ProseLinter.Markdown
