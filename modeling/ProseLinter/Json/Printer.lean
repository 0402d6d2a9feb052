import ProseLinter.Decimal.Shortest
import ProseLinter.Json.Basic

/-!
# Compact JSON

A value is written without blanks. A string escapes quotes, backslashes and control characters
only. A double is written with the fewest digits that read back: positionally from `10 ^ -5` up to
`10 ^ 16`, otherwise with an exponent, which always has a sign.
-/

namespace ProseLinter

namespace Number

/-- The sign, digits and point of a double. -/
def realChars (x : Float) : List Char :=
  let sign : List Char := if x.toBits.toNat < Decimal.Binary.signBit then [] else ['-']
  let d := (Decimal.Binary.ofFloat x).shortest
  let digits := Nat.toDigits 10 d.digits
  let count := digits.length
  -- the point stands after the first `point` digits
  let point : Int := count + d.exponent
  sign ++
    if d.digits == 0 then ['0', '.', '0']
    else if 0 ≤ d.exponent && point ≤ 16 then
      digits ++ List.replicate d.exponent.toNat '0' ++ ['.', '0']
    else if 0 < point && point ≤ 16 then
      digits.take point.toNat ++ ['.'] ++ digits.drop point.toNat
    else if -5 < point && point ≤ 0 then
      ['0', '.'] ++ List.replicate (-point).toNat '0' ++ digits
    else
      let mark := if 0 < point then ['e', '+'] else ['e', '-']
      let exponent := Nat.toDigits 10 (point - 1).natAbs
      if count == 1 then digits ++ mark ++ exponent
      else digits.take 1 ++ ['.'] ++ digits.drop 1 ++ mark ++ exponent

/-- The text of a number. -/
def chars : Number → List Char
  | .int value => (toString value).toList
  | .real value => realChars value

/-- The text of a number. -/
def render (n : Number) : String :=
  String.ofList n.chars

end Number

namespace Json

/-- The digit of a value below sixteen. -/
def hexDigit (n : Nat) : Char :=
  if n < 10 then Char.ofNat (n + 48) else Char.ofNat (n + 87)

/-- The written form of one character of a string. -/
def escapeChar (c : Char) : List Char :=
  if c == '"' then ['\\', '"']
  else if c == '\\' then ['\\', '\\']
  else if c.toNat == 8 then ['\\', 'b']
  else if c.toNat == 9 then ['\\', 't']
  else if c.toNat == 10 then ['\\', 'n']
  else if c.toNat == 12 then ['\\', 'f']
  else if c.toNat == 13 then ['\\', 'r']
  else if c.toNat < 0x20 then
    ['\\', 'u', '0', '0', hexDigit (c.toNat / 16), hexDigit (c.toNat % 16)]
  else [c]

/-- A string in quotes. -/
def stringChars (s : String) : List Char :=
  '"' :: s.toList.flatMap escapeChar ++ ['"']

mutual

/-- The characters of the compact form of a value. -/
def chars : Json → List Char
  | .null => ['n', 'u', 'l', 'l']
  | .bool true => ['t', 'r', 'u', 'e']
  | .bool false => ['f', 'a', 'l', 's', 'e']
  | .number n => n.chars
  | .string s => stringChars s
  | .array items => '[' :: itemChars items ++ [']']
  | .object fields => '\x7b' :: fieldChars fields ++ ['\x7d']

/-- The items of an array, separated by commas. -/
def itemChars : List Json → List Char
  | [] => []
  | [v] => chars v
  | v :: w :: rest => chars v ++ ',' :: itemChars (w :: rest)

/-- The fields of an object, separated by commas. -/
def fieldChars : List (String × Json) → List Char
  | [] => []
  | [(name, v)] => stringChars name ++ ':' :: chars v
  | (name, v) :: f :: rest => stringChars name ++ ':' :: (chars v ++ ',' :: fieldChars (f :: rest))

end

/-- The compact form of a value. -/
def render (v : Json) : String :=
  String.ofList v.chars

end Json

end ProseLinter
