import ProseLinter.Markdown.Glyph
import ProseLinter.Markdown.NamedCharacter

/-!
# Escapes and character references

A punctuation mark after a backslash stands for itself. A character reference stands for one or
two characters: it is a name or a number between an ampersand and a semicolon.

* `CharacterReference.read?` reads a reference; a number that no character may have stands for the
  replacement character.
-/

namespace ProseLinter.Markdown

/-- The punctuation marks of ASCII. -/
def isAsciiPunctuation (c : Char) : Bool :=
  let n := c.toNat
  (0x21 ≤ n && n ≤ 0x2F) || (0x3A ≤ n && n ≤ 0x40) || (0x5B ≤ n && n ≤ 0x60)
    || (0x7B ≤ n && n ≤ 0x7E)

/-- The escaped punctuation mark after a backslash. -/
def escaped? : List Glyph → Option (Glyph × List Glyph)
  | [] => none
  | g :: gs => if isAsciiPunctuation g.char then some (g, gs) else none

namespace CharacterReference

/-- Whether a number is the code point of a character that a reference may stand for: no control
character other than tab, newline, form feed and carriage return, no surrogate and no code point
that is reserved for not being a character. -/
def isAllowed (n : Nat) : Bool :=
  !(n < 0x09 || n == 0x0B || (0x0E ≤ n && n < 0x20) || (0x7F ≤ n && n < 0xA0)
    || (0xD800 ≤ n && n < 0xE000) || (0xFDD0 ≤ n && n < 0xFDF0)
    || n % 0x10000 == 0xFFFE || n % 0x10000 == 0xFFFF || 0x10FFFF < n)

/-- The character of a number. -/
def ofNumber (n : Nat) : Char :=
  if isAllowed n then Char.ofNat n else '\uFFFD'

/-- The value of a digit of a base up to sixteen. -/
def digitValue (c : Char) : Nat :=
  if c.isDigit then c.toNat - '0'.toNat else c.toLower.toNat - 'a'.toNat + 10

/-- The number that digits write in a base. -/
def number (base : Nat) (digits : List Glyph) : Nat :=
  digits.foldl (fun n g => n * base + digitValue g.char) 0

/-- Whether a character is a hexadecimal digit. -/
def isHexDigit (c : Char) : Bool :=
  c.isDigit || ('a' ≤ c && c ≤ 'f') || ('A' ≤ c && c ≤ 'F')

/-- Reads one to `limit` characters that satisfy `p` and a semicolon after them. -/
def body? (p : Char → Bool) (limit : Nat) (gs : List Glyph) :
    Option (List Glyph × List Glyph) := do
  let (digits, rest) := spanChars p gs
  let rest ← expect? ';' rest
  if digits.isEmpty || limit < digits.length then none else some (digits, rest)

/-- Reads a reference after its ampersand: the characters that it stands for, and what follows. -/
def read? (gs : List Glyph) : Option (List Char × List Glyph) :=
  match expect? '#' gs with
  | none => do
    let (name, rest) ← body? Char.isAlphanum 31 gs
    let value ← named? (name.map (·.char))
    some (value, rest)
  | some gs =>
    match (expect? 'x' gs).or (expect? 'X' gs) with
    | some gs => (body? isHexDigit 6 gs).map fun (ds, rest) => ([ofNumber (number 16 ds)], rest)
    | none => (body? Char.isDigit 7 gs).map fun (ds, rest) => ([ofNumber (number 10 ds)], rest)

end CharacterReference

end ProseLinter.Markdown
