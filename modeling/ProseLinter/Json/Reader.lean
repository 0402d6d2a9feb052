import ProseLinter.Json.Token

/-!
# Reading lenient JSON

The value of a text of lenient JSON: commas between items and fields may be missing or trail, and
of two fields of one name the last counts. A text without any token has no value.

The reader takes the tokens one by one and keeps a stack of the arrays and objects that are open,
so the fault it reports is the first one met.

* `read` gives the value of a text or its fault.
* `Fault.message` is the text of a fault, with its line and column.
-/

namespace ProseLinter.Json

/-- An array or object that is still open, with the rest of the text at its opening bracket and
what it holds so far, the last item first. -/
inductive Frame where
  | array (start : List Char) (items : List Json)
  | object (start : List Char) (fields : List (String × Json)) (name : String)

/-- What the reader expects next. -/
inductive Expect where
  /-- A value: the whole text's or a field's. -/
  | value
  /-- An item of an array or its end. -/
  | item
  /-- A comma, or else an item of an array or its end. -/
  | itemOrComma
  /-- The name of a field or the end of an object. -/
  | name
  /-- A comma, or else the name of a field or the end of an object. -/
  | nameOrComma
  /-- The colon after a name. -/
  | colon
  /-- The end of the text. -/
  | stop (value : Json)

/-- The state of the reader. -/
structure Reader where
  expect : Expect
  frames : List Frame

/-- A complete value goes to the innermost open frame. -/
def Reader.close (frames : List Frame) (v : Json) : Reader :=
  match frames with
  | [] => ⟨.stop v, []⟩
  | .array start items :: outer => ⟨.itemOrComma, .array start (v :: items) :: outer⟩
  | .object start fields name :: outer =>
    ⟨.nameOrComma, .object start ((name, v) :: fields) name :: outer⟩

/-- Reads a token that begins a value. -/
def Reader.value (frames : List Frame) (token : Token) (start : List Char) :
    Except Fault Reader :=
  match token with
  | .openBrace => .ok ⟨.name, .object start [] "" :: frames⟩
  | .openBracket => .ok ⟨.item, .array start [] :: frames⟩
  | .string s => .ok (close frames (.string s))
  | .number _ v => .ok (close frames v)
  | .bool b => .ok (close frames (.bool b))
  | .null => .ok (close frames .null)
  | .closeBrace => .error ⟨.unexpectedCloseBrace, start⟩
  | .closeBracket => .error ⟨.unexpectedCloseBracket, start⟩
  | .comma => .error ⟨.unexpectedComma, start⟩
  | .colon => .error ⟨.unexpectedColon, start⟩
  | .word _ => .error ⟨.unexpectedWord, start⟩

/-- Reads a token where an item of an array or its end is expected. -/
def Reader.item (frames : List Frame) (token : Token) (start : List Char) :
    Except Fault Reader :=
  match token, frames with
  | .closeBracket, .array _ items :: outer => .ok (close outer (.array items.reverse))
  | _, _ => Reader.value frames token start

/-- Reads a token where the name of a field or the end of an object is expected. -/
def Reader.name (frames : List Frame) (token : Token) (start : List Char) :
    Except Fault Reader :=
  match frames with
  | .object opening fields _ :: outer =>
    match token with
    | .closeBrace => .ok (close outer (ofFields fields.reverse))
    | .string s => .ok ⟨.colon, .object opening fields s :: outer⟩
    | .word s => .ok ⟨.colon, .object opening fields s :: outer⟩
    | .number s _ => .ok ⟨.colon, .object opening fields s :: outer⟩
    | _ => .error ⟨.unexpectedTokenInObject, start⟩
  | _ => .error ⟨.unexpectedTokenInObject, start⟩

/-- Reads one token. -/
def Reader.step (r : Reader) (token : Token) (start : List Char) : Except Fault Reader :=
  match r.expect with
  | .value => Reader.value r.frames token start
  | .item => Reader.item r.frames token start
  | .itemOrComma =>
    match token with
    | .comma => .ok ⟨.item, r.frames⟩
    | _ => Reader.item r.frames token start
  | .name => Reader.name r.frames token start
  | .nameOrComma =>
    match token with
    | .comma => .ok ⟨.name, r.frames⟩
    | _ => Reader.name r.frames token start
  | .colon =>
    match token with
    | .colon => .ok ⟨.value, r.frames⟩
    | _ => .error ⟨.expectedColon, start⟩
  | .stop _ => .error ⟨.secondValue, start⟩

/-- The value when the text ends. -/
def Reader.finish (r : Reader) : Except Fault (Option Json) :=
  match r.expect, r.frames with
  | .stop v, _ => .ok (some v)
  | .value, [] => .ok none
  | .value, _ => .error ⟨.expectedFieldValue, []⟩
  | .colon, _ => .error ⟨.expectedColon, []⟩
  | _, .array start _ :: _ => .error ⟨.unterminatedArray, start⟩
  | _, .object start _ _ :: _ => .error ⟨.unterminatedObject, start⟩
  | _, [] => .ok none

/-- Reads the tokens of a text from a state on. -/
def Reader.run (r : Reader) : Scan → Except Fault (Option Json)
  | .done => r.finish
  | .fault fault => .error fault
  | .token token start next =>
    match r.step token start with
    | .ok r => r.run next
    | .error fault => .error fault

/-- The value of a text, or none when the text holds no token. -/
def read (text : List Char) : Except Fault (Option Json) :=
  Reader.run ⟨.value, []⟩ (scan text)

/-! ### Texts of faults -/

/-- The text of a cause. -/
def Cause.message : Cause → String
  | .expectedColon => "Expected colon after the string or word in object property"
  | .expectedFieldValue => "Expected value after colon in object property"
  | .expectedDigit => "Expected digit"
  | .expectedDigitAfterSign => "Expected digit following negative sign"
  | .expectedExponent => "Expected plus, minus, or digit in number literal"
  | .expectedFourHexDigits => "Expected four hex digits"
  | .invalidEscape => "Invalid escape"
  | .invalidEscapeInSingleQuotes => "Invalid escape in single quote string"
  | .invalidEscapeInDoubleQuotes => "Invalid escape in double quote string"
  | .secondValue => "Text cannot contain more than one JSON value"
  | .unexpectedCloseBrace => "Unexpected close brace"
  | .unexpectedCloseBracket => "Unexpected close bracket"
  | .unexpectedColon => "Unexpected colon"
  | .unexpectedComma => "Unexpected comma"
  | .unexpectedWord => "Unexpected word"
  | .unexpectedToken => "Unexpected token"
  | .unexpectedTokenInObject => "Unexpected token in object"
  | .unterminatedArray => "Unterminated array"
  | .unterminatedObject => "Unterminated object"
  | .unterminatedComment => "Unterminated comment block"
  | .unterminatedString => "Unterminated string literal"
  | .unpairedHighSurrogate digits => surrogate digits "unpaired high surrogate"
  | .highSurrogateWithoutLow digits =>
    surrogate digits "high surrogate not followed by low surrogate"
  | .unpairedLowSurrogate digits => surrogate digits "unpaired low surrogate"
where
  surrogate (digits reason : String) : String :=
    "Invalid unicode escape sequence. '" ++ digits ++ " (" ++ reason
      ++ ")' is not a valid UTF8 character"

/-- The line and column of the place in a text from which `rest` remains, both counted from one,
columns in characters. -/
def placeOf (text rest : List Char) : Nat × Nat :=
  (text.take (text.length - rest.length)).foldl
    (fun (line, column) c => if c == '\n' then (line + 1, 1) else (line, column + 1)) (1, 1)

/-- The text of a fault in a text. -/
def Fault.message (f : Fault) (text : List Char) : String :=
  let (line, column) := placeOf text f.rest
  f.cause.message ++ " on line " ++ toString line ++ " column " ++ toString column

end ProseLinter.Json
