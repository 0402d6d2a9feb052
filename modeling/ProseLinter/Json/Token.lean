import ProseLinter.Json.Basic
import ProseLinter.Text.Alphanumeric
import ProseLinter.Text.Blank

/-!
# Tokens of lenient JSON

Lenient JSON allows comments, strings in single quotes, words as names, a sign in front of any
number and hexadecimal numbers. This module cuts a text into tokens.

A place in the text is given by the text that remains from it on, so a token or a fault carries
the rest of the text at its start.

* `scan` is the sequence of tokens, which ends with the text or at the first fault.
-/

namespace ProseLinter.Json

/-- A token of lenient JSON. -/
inductive Token where
  | openBrace
  | closeBrace
  | openBracket
  | closeBracket
  | comma
  | colon
  | string (value : String)
  | word (text : String)
  | number (text : String) (value : Json)
  | bool (value : Bool)
  | null

/-- What can be wrong with a text that should be lenient JSON. -/
inductive Cause where
  | expectedColon
  | expectedFieldValue
  | expectedDigit
  | expectedDigitAfterSign
  | expectedExponent
  | expectedFourHexDigits
  | invalidEscape
  | invalidEscapeInSingleQuotes
  | invalidEscapeInDoubleQuotes
  | secondValue
  | unexpectedCloseBrace
  | unexpectedCloseBracket
  | unexpectedColon
  | unexpectedComma
  | unexpectedWord
  | unexpectedToken
  | unexpectedTokenInObject
  | unterminatedArray
  | unterminatedObject
  | unterminatedComment
  | unterminatedString
  | unpairedHighSurrogate (digits : String)
  | highSurrogateWithoutLow (digits : String)
  | unpairedLowSurrogate (digits : String)

/-- A fault and the rest of the text from it on. -/
structure Fault where
  cause : Cause
  rest : List Char

/-- The tokens of a text, each with the rest of the text at its start. -/
inductive Scan where
  | done
  | fault (fault : Fault)
  | token (token : Token) (start : List Char) (next : Scan)

/-! ### Characters -/

/-- An ASCII digit. -/
def isDigit (c : Char) : Bool :=
  '0' ≤ c && c ≤ '9'

/-- The value of a hexadecimal digit. -/
def hexValue? (c : Char) : Option Nat :=
  if '0' ≤ c && c ≤ '9' then some (c.toNat - 48)
  else if 'a' ≤ c && c ≤ 'f' then some (c.toNat - 87)
  else if 'A' ≤ c && c ≤ 'F' then some (c.toNat - 55)
  else none

/-- The number that hexadecimal digits stand for. -/
def hexNumber? (cs : List Char) : Option Nat :=
  cs.foldlM (fun n c => (hexValue? c).map (16 * n + ·)) 0

/-! ### Strings -/

/-- The character that a simple escape stands for. -/
def simpleEscape? (c : Char) : Option Char :=
  if c == '"' || c == '\'' || c == '\\' || c == '/' then some c
  else if c == 'b' then some '\x08'
  else if c == 'f' then some '\x0c'
  else if c == 'n' then some '\n'
  else if c == 'r' then some '\r'
  else if c == 't' then some '\t'
  else none

/-- Whether a code unit is the first of a surrogate pair. -/
def isHighSurrogate (n : Nat) : Bool :=
  0xD800 ≤ n && n ≤ 0xDBFF

/-- Whether a code unit is the second of a surrogate pair. -/
def isLowSurrogate (n : Nat) : Bool :=
  0xDC00 ≤ n && n ≤ 0xDFFF

/-- Reads a string up to its closing quote: `start` is the text from its opening quote on, `acc`
the characters read so far, the last one first. -/
def scanString (quote : Char) (start acc : List Char) :
    List Char → Except Fault (String × List Char)
  | [] => .error ⟨.unterminatedString, start⟩
  | '\\' :: [] => .error ⟨.unterminatedString, start⟩
  | '\\' :: 'u' :: a :: b :: c :: d :: '\\' :: 'u' :: e :: f :: g :: h :: rest =>
    let here := '\\' :: 'u' :: a :: b :: c :: d :: '\\' :: 'u' :: e :: f :: g :: h :: rest
    let digits := String.ofList [a, b, c, d]
    match hexNumber? [a, b, c, d] with
    | none => .error ⟨.expectedFourHexDigits, here⟩
    | some n =>
      if isHighSurrogate n then
        match hexNumber? [e, f, g, h] with
        | none => .error ⟨.expectedFourHexDigits, here⟩
        | some m =>
          if isLowSurrogate m then
            let code := 0x10000 + (n - 0xD800) * 0x400 + (m - 0xDC00)
            scanString quote start (Char.ofNat code :: acc) rest
          else .error ⟨.highSurrogateWithoutLow digits, here⟩
      else if isLowSurrogate n then .error ⟨.unpairedLowSurrogate digits, here⟩
      else
        scanString quote start (Char.ofNat n :: acc) ('\\' :: 'u' :: e :: f :: g :: h :: rest)
  | '\\' :: 'u' :: a :: b :: c :: d :: rest =>
    let here := '\\' :: 'u' :: a :: b :: c :: d :: rest
    let digits := String.ofList [a, b, c, d]
    match hexNumber? [a, b, c, d] with
    | none => .error ⟨.expectedFourHexDigits, here⟩
    | some n =>
      if isHighSurrogate n then
        match rest with
        | '\\' :: 'u' :: _ => .error ⟨.expectedFourHexDigits, here⟩
        | _ => .error ⟨.unpairedHighSurrogate digits, here⟩
      else if isLowSurrogate n then .error ⟨.unpairedLowSurrogate digits, here⟩
      else scanString quote start (Char.ofNat n :: acc) rest
  | '\\' :: 'u' :: rest => .error ⟨.expectedFourHexDigits, '\\' :: 'u' :: rest⟩
  | '\\' :: c :: rest =>
    if c == '"' && quote != '"' then .error ⟨.invalidEscapeInSingleQuotes, '\\' :: c :: rest⟩
    else if c == '\'' && quote == '"' then
      .error ⟨.invalidEscapeInDoubleQuotes, '\\' :: c :: rest⟩
    else match simpleEscape? c with
      | some image => scanString quote start (image :: acc) rest
      | none => .error ⟨.invalidEscape, '\\' :: c :: rest⟩
  | c :: rest =>
    if c == quote then .ok (String.ofList acc.reverse, rest)
    else scanString quote start (c :: acc) rest

/-! ### Numbers -/

/-- The digits at the start of a text and the rest; at least one is needed. -/
def takeDigits (cause : Cause) (cs : List Char) : Except Fault (List Char × List Char) :=
  match cs with
  | c :: _ =>
    if isDigit c then .ok (cs.takeWhile isDigit, cs.dropWhile isDigit) else .error ⟨cause, cs⟩
  | [] => .error ⟨cause, cs⟩

/-- The digits of a fraction, if a point follows. -/
def takeFraction (cs : List Char) : Except Fault (Option (List Char) × List Char) :=
  match cs with
  | '.' :: rest => do
    let (digits, rest) ← takeDigits .expectedDigit rest
    return (some digits, rest)
  | _ => .ok (none, cs)

/-- The sign and digits of an exponent, if one follows. -/
def takeExponent (cs : List Char) :
    Except Fault (Option (List Char × List Char × List Char) × List Char) :=
  match cs with
  | c :: rest =>
    if c == 'e' || c == 'E' then
      match rest with
      | s :: rest' =>
        if s == '+' || s == '-' then do
          let (digits, rest) ← takeDigits .expectedDigit rest'
          return (some ([c], [s], digits), rest)
        else do
          let (digits, rest) ← takeDigits .expectedExponent rest
          return (some ([c], [], digits), rest)
      | [] => .error ⟨.expectedExponent, rest⟩
    else .ok (none, cs)
  | [] => .ok (none, cs)

/-- The value of a hexadecimal literal: an integer of 64 bits with a sign, or else the string of
its text. -/
def hexLiteral (text : String) (negative : Bool) (digits : List Char) : Json :=
  match hexNumber? digits with
  | some n =>
    if n < 0x8000000000000000 then .number (.int (if negative then -n else n))
    else .string text
  | none => .string text

/-- The exponent that a sign and digits stand for. -/
def exponentValue (sign digits : List Char) : Int :=
  let magnitude : Nat := digits.foldl (fun n c => 10 * n + Number.digitValue c) 0
  if sign == ['-'] then -magnitude else magnitude

/-- The value of a decimal literal; one too large for a double is the string of its text. -/
def decimalLiteral (text : String) (negative : Bool) (whole : List Char)
    (fraction? : Option (List Char)) (exponent? : Option (List Char × List Char × List Char)) :
    Json :=
  let exponent? := exponent?.map fun (_, sign, digits) => exponentValue sign digits
  match Number.ofDecimal? negative whole fraction? exponent? with
  | some n => .number n
  | none => .string text

/-- Reads the number at the start of a text, after its sign. -/
def scanUnsigned (sign cs : List Char) : Except Fault (Token × List Char) :=
  let negative := sign == ['-']
  let decimal := fun whole rest => do
    let (fraction?, rest) ← takeFraction rest
    let (exponent?, rest) ← takeExponent rest
    let fractionText := match fraction? with
      | some digits => '.' :: digits
      | none => []
    let exponentText := match exponent? with
      | some (mark, sign, digits) => mark ++ sign ++ digits
      | none => []
    let text := String.ofList (sign ++ whole ++ fractionText ++ exponentText)
    return (.number text (decimalLiteral text negative whole fraction? exponent?), rest)
  match cs with
  | '0' :: x :: rest =>
    if x == 'x' || x == 'X' then
      match rest with
      | c :: _ =>
        if (hexValue? c).isSome then
          let digits := rest.takeWhile fun c => (hexValue? c).isSome
          let text := String.ofList (sign ++ ['0', x] ++ digits)
          .ok (.number text (hexLiteral text negative digits),
            rest.dropWhile fun c => (hexValue? c).isSome)
        else .error ⟨.expectedDigit, rest⟩
      | [] => .error ⟨.expectedDigit, rest⟩
    else decimal ['0'] (x :: rest)
  | '0' :: rest => decimal ['0'] rest
  | _ => do
    let (whole, rest) ← takeDigits .expectedDigitAfterSign cs
    decimal whole rest

/-- Reads the number at the start of a text. -/
def scanNumber (cs : List Char) : Except Fault (Token × List Char) :=
  match cs with
  | c :: rest => if c == '-' || c == '+' then scanUnsigned [c] rest else scanUnsigned [] cs
  | [] => scanUnsigned [] cs

/-! ### Words and comments -/

/-- The rest after a keyword, which a letter or number must not follow. -/
def afterKeyword? (keyword : List Char) (cs : List Char) : Option (List Char) :=
  match keyword.isPrefixOf? cs with
  | some rest =>
    match rest with
    | c :: _ => if Text.isAlphanumeric c then none else some rest
    | [] => some rest
  | none => none

/-- Reads a word, which ends at a blank or a colon. -/
def scanWord (cs : List Char) : Except Fault (Token × List Char) :=
  let inWord := fun c => !(Text.isBlank c || c == ':')
  let word := cs.takeWhile inWord
  if word.isEmpty || word.any fun c => !(Text.isAlphanumeric c || c == '-' || c == '_') then
    .error ⟨.unexpectedToken, cs⟩
  else .ok (.word (String.ofList word), cs.dropWhile inWord)

/-- The rest after a line comment. -/
def dropLine : List Char → List Char
  | [] => []
  | c :: cs => if c == '\n' then c :: cs else dropLine cs

/-- The rest after the end of a block comment, if it ends. -/
def dropBlock? : List Char → Option (List Char)
  | [] => none
  | '*' :: '/' :: rest => some rest
  | _ :: rest => dropBlock? rest

/-! ### The scanner -/

/-- Reads the token at the start of a text that does not begin with a blank or a comment. -/
def scanToken (c : Char) (cs : List Char) : Except Fault (Token × List Char) :=
  let here := c :: cs
  if c == '\x7b' then .ok (.openBrace, cs)
  else if c == '\x7d' then .ok (.closeBrace, cs)
  else if c == '[' then .ok (.openBracket, cs)
  else if c == ']' then .ok (.closeBracket, cs)
  else if c == ',' then .ok (.comma, cs)
  else if c == ':' then .ok (.colon, cs)
  else if c == '"' || c == '\'' then
    (scanString c here [] cs).map fun (s, rest) => (.string s, rest)
  else if c == '-' || c == '+' || isDigit c then scanNumber here
  else match afterKeyword? ['t', 'r', 'u', 'e'] here with
    | some rest => .ok (.bool true, rest)
    | none =>
      match afterKeyword? ['f', 'a', 'l', 's', 'e'] here with
      | some rest => .ok (.bool false, rest)
      | none =>
        match afterKeyword? ['n', 'u', 'l', 'l'] here with
        | some rest => .ok (.null, rest)
        | none => scanWord here

/-- The tokens of a text of at most `fuel` characters. -/
def scanFrom : (fuel : Nat) → List Char → Scan
  | 0, _ => .done
  | _, [] => .done
  | fuel + 1, c :: cs =>
    if Text.isBlank c then scanFrom fuel cs
    else match c, cs with
      | '/', '/' :: rest => scanFrom fuel (dropLine rest)
      | '/', '*' :: rest =>
        match dropBlock? rest with
        | some rest => scanFrom fuel rest
        | none => .fault ⟨.unterminatedComment, c :: cs⟩
      | '/', rest => .fault ⟨.unexpectedToken, '/' :: rest⟩
      | c, cs =>
        match scanToken c cs with
        | .ok (token, rest) => .token token (c :: cs) (scanFrom fuel rest)
        | .error fault => .fault fault

/-- The tokens of a text. -/
def scan (cs : List Char) : Scan :=
  scanFrom cs.length cs

end ProseLinter.Json
