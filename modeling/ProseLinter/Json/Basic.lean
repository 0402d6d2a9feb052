/-!
# JSON values

A JSON value whose objects list their fields in increasing order of names, each name once. Numbers
are integers or doubles; an integer that fits neither 64 bits with a sign nor 64 bits without one
is read as a double.

* `Json.ofFields` builds an object from fields in any order, the last of a name winning.
* `Number.ofDecimal?` is the number that a decimal literal stands for.
-/

namespace ProseLinter

/-- A JSON number: an integer of 64 bits, or a double. -/
inductive Number where
  | int (value : Int)
  | real (value : Float)

/-- A JSON value. -/
inductive Json where
  | null
  | bool (value : Bool)
  | number (value : Number)
  | string (value : String)
  | array (items : List Json)
  | object (fields : List (String × Json))

instance : Inhabited Json := ⟨.null⟩

namespace Number

/-- The largest integer that is kept as one. -/
def intMax : Int := 0xFFFFFFFFFFFFFFFF

/-- The smallest integer that is kept as one. -/
def intMin : Int := -0x8000000000000000

/-- The value of a decimal digit. -/
def digitValue (c : Char) : Nat :=
  c.toNat - 48

/-- Reads decimal digits on to a natural number as long as the result fits 64 bits, and counts the
digits left over. -/
def readDigits (n : Nat) : List Char → Nat × Nat
  | [] => (n, 0)
  | c :: cs =>
    let next := 10 * n + digitValue c
    if next ≤ intMax then readDigits next cs else (n, cs.length + 1)

/-- A power of ten as a double. -/
def powerOfTen (n : Nat) : Float :=
  Float.ofScientific 1 false n

/-- A double times a power of ten, by one multiplication or by divisions by powers that a double
can hold; none when the result is too large. -/
def scale? (x : Float) (exponent : Int) : Option Float :=
  if x == 0.0 then some x
  else if 308 < exponent then none
  else if 0 ≤ exponent then
    let y := x * powerOfTen exponent.toNat
    if y.isInf then none else some y
  else if -308 ≤ exponent then some (x / powerOfTen (-exponent).toNat)
  else if -616 ≤ exponent then some (x / powerOfTen 308 / powerOfTen (-exponent - 308).toNat)
  else some 0.0

/-- The double that a literal stands for, given its sign, its digits before and after the point
and its exponent: the first digits, as many as fit 64 bits, are scaled. None when it is too large
for a double. -/
def realOfDecimal? (negative : Bool) (whole fraction : List Char) (exponent : Int) :
    Option Float :=
  let (high, dropped) := readDigits 0 whole
  let (mantissa, unread) := readDigits high fraction
  let places : Int := (fraction.length : Int) - unread
  (scale? (Float.ofNat mantissa) (exponent + dropped - places)).map fun x =>
    if negative then -x else x

/-- The number that a literal stands for, given its sign, its digits before the point, those after
it if there is one, and its exponent if there is one. A literal with neither is an integer, unless
it is too large or is zero with a minus sign. None when the number is too large for a double. -/
def ofDecimal? (negative : Bool) (whole : List Char) (fraction? : Option (List Char))
    (exponent? : Option Int) : Option Number :=
  match fraction?, exponent? with
  | none, none =>
    let magnitude := whole.foldl (fun n c => 10 * n + digitValue c) 0
    let value : Int := if negative then -magnitude else magnitude
    if (negative && magnitude == 0) || value < intMin || intMax < value then
      (realOfDecimal? negative whole [] 0).map .real
    else some (.int value)
  | _, _ => (realOfDecimal? negative whole (fraction?.getD []) (exponent?.getD 0)).map .real

end Number

namespace Json

/-- Adds a field to fields in increasing order of names, in the place of one of the same name. -/
def insertField (name : String) (value : Json) :
    List (String × Json) → List (String × Json)
  | [] => [(name, value)]
  | (n, v) :: rest =>
    if name < n then (name, value) :: (n, v) :: rest
    else if name == n then (name, value) :: rest
    else (n, v) :: insertField name value rest

/-- The object with the given fields; of two fields of one name the last counts. -/
def ofFields (fields : List (String × Json)) : Json :=
  .object (fields.foldl (fun acc f => insertField f.1 f.2 acc) [])

/-- The value of a field of an object. -/
def field? (v : Json) (name : String) : Option Json :=
  match v with
  | .object fields => (fields.find? (·.1 == name)).map (·.2)
  | _ => none

/-- The text of a string value. -/
def asString? : Json → Option String
  | .string s => some s
  | _ => none

/-- Whether a value is null. -/
def isNull : Json → Bool
  | .null => true
  | _ => false

/-- An integer value. -/
def ofNat (n : Nat) : Json :=
  .number (.int n)

/-- A list of strings. -/
def strings (ss : List String) : Json :=
  .array (ss.map .string)

/-- A value that may be absent, null standing for absence. -/
def ofOption {α : Type} (encode : α → Json) : Option α → Json
  | some a => encode a
  | none => .null

end Json

end ProseLinter
