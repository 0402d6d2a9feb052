import ProseLinter.Json.Printer
import ProseLinter.Text.Quoted

/-!
# Typed reading of JSON values

A decoder turns a JSON value into a value of a type or says what is wrong with it. Records are
read from an object, whose fields are visited in order of their names, or from an array of their
fields in the order of declaration.

* `DecodeError` lists what can be wrong, and `DecodeError.message` words it.
* `Record.decode` reads a record.
-/

namespace ProseLinter

/-- What is wrong with a JSON value that should be of a type. -/
inductive DecodeError where
  | invalidType (got : Json) (expected : String)
  | invalidInteger (value : Int) (expected : String)
  | notOneEntry
  | missingField (name : String)
  | unknownField (name : String) (known : List String)
  | unknownVariant (name : String) (known : List String)
  | invalidLength (length : Nat) (expected : String)
  | noAlternative (type : String)

namespace DecodeError

/-- How an error names a value. -/
def describe : Json → String
  | .null => "null"
  | .bool b => "boolean `" ++ toString b ++ "`"
  | .number (.int n) => "integer `" ++ toString n ++ "`"
  | .number (.real x) => "floating point `" ++ (Number.real x).render ++ "`"
  | .string s => "string " ++ Text.quoted s
  | .array _ => "sequence"
  | .object _ => "map"

/-- The names that would have been right. -/
def oneOf (nothing : String) (names : List String) : String :=
  match names.map fun n => "`" ++ n ++ "`" with
  | [] => nothing
  | [a] => "expected " ++ a
  | [a, b] => "expected " ++ a ++ " or " ++ b
  | all => "expected one of " ++ String.intercalate ", " all

/-- The text of an error. -/
def message : DecodeError → String
  | invalidType got expected => "invalid type: " ++ describe got ++ ", expected " ++ expected
  | invalidInteger value expected =>
    "invalid value: integer `" ++ toString value ++ "`, expected " ++ expected
  | notOneEntry => "invalid value: map, expected map with a single key"
  | missingField name => "missing field `" ++ name ++ "`"
  | unknownField name known =>
    "unknown field `" ++ name ++ "`, " ++ oneOf "there are no fields" known
  | unknownVariant name known =>
    "unknown variant `" ++ name ++ "`, " ++ oneOf "there are no variants" known
  | invalidLength length expected =>
    "invalid length " ++ toString length ++ ", expected " ++ expected
  | noAlternative type => "data did not match any variant of untagged enum " ++ type

end DecodeError

namespace Json

/-- Reads a value of type `α`. -/
abbrev Decoder (α : Type) := Json → Except DecodeError α

/-! ### Plain values -/

/-- Reads a string, named `expected` in errors. -/
def decodeStringAs (expected : String) : Decoder String
  | .string s => .ok s
  | v => .error (.invalidType v expected)

/-- Reads a string. -/
def decodeString : Decoder String :=
  decodeStringAs "a string"

/-- Reads a boolean. -/
def decodeBool : Decoder Bool
  | .bool b => .ok b
  | v => .error (.invalidType v "a boolean")

/-- Reads a natural number of so many bits, named `expected` in errors. -/
def decodeNat (bits : Nat) (expected : String) : Decoder Nat
  | .number (.int n) =>
    if 0 ≤ n && n < Nat.pow 2 bits then .ok n.toNat else .error (.invalidInteger n expected)
  | v => .error (.invalidType v expected)

/-- Reads a value that may be null. -/
def decodeOption {α : Type} (decode : Decoder α) : Decoder (Option α)
  | .null => .ok none
  | v => (decode v).map some

/-- Reads a list. -/
def decodeList {α : Type} (decode : Decoder α) : Decoder (List α)
  | .array items => items.mapM decode
  | v => .error (.invalidType v "a sequence")

/-- Reads an object as pairs of a name and a value, in order of the names. -/
def decodeMap {α : Type} (decode : Decoder α) : Decoder (List (String × α))
  | .object fields => fields.mapM fun f => (decode f.2).map fun a => (f.1, a)
  | v => .error (.invalidType v "a map")

/-- Reads one of several names, given as a string or as an object whose only field has the name
and the value null. -/
def decodeVariant {α : Type} (variants : List (String × α)) : Decoder α
  | .string s => variant s
  | .object [(name, content)] => do
    let a ← variant name
    match content with
    | .null => return a
    | v => throw (.invalidType v "unit")
  | .object _ => .error .notOneEntry
  | v => .error (.invalidType v "string or map")
where
  variant (name : String) : Except DecodeError α :=
    match variants.lookup name with
    | some a => .ok a
    | none => .error (.unknownVariant name (variants.map (·.1)))

/-! ### Records -/

/-- How a record was written: as an object, or as an array of its first fields. -/
inductive Shape where
  | fields
  | items

/-- The reading of a record: its name and fields in order of declaration, whether other fields are
refused, and how one field is read into the part of the record read so far. -/
structure Record (σ : Type) where
  name : String
  fieldNames : List String
  closed : Bool
  start : σ
  set : String → Json → σ → Except DecodeError σ

namespace Record

variable {σ : Type}

/-- Reads the fields of an object one by one. -/
def ofFields (r : Record σ) (fields : List (String × Json)) : Except DecodeError σ :=
  fields.foldlM (fun acc (name, v) =>
    if r.fieldNames.contains name then r.set name v acc
    else if r.closed then .error (.unknownField name r.fieldNames)
    else .ok acc) r.start

/-- Reads the items of an array as the fields in order of declaration. -/
def ofItems (r : Record σ) (items : List Json) : Except DecodeError σ :=
  (r.fieldNames.zip items).foldlM (fun acc (name, v) => r.set name v acc) r.start

/-- The error for a required field that is absent: in an array all fields before it are there. -/
def absent {α : Type} (r : Record σ) (shape : Shape) (field : String) : Except DecodeError α :=
  match shape with
  | .fields => .error (.missingField field)
  | .items =>
    let count := r.fieldNames.length
    .error (.invalidLength (r.fieldNames.idxOf field)
      ("struct " ++ r.name ++ " with " ++ toString count
        ++ (if count == 1 then " element" else " elements")))

/-- Reads a record; `finish` fills in the fields that are absent. -/
def decode {α : Type} (r : Record σ) (finish : Shape → σ → Except DecodeError α) : Decoder α
  | .object fields => do finish .fields (← r.ofFields fields)
  | .array items => do
    let a ← finish .items (← r.ofItems items)
    if r.fieldNames.length < items.length then
      throw (.invalidLength items.length "fewer elements in array")
    return a
  | v => .error (.invalidType v ("struct " ++ r.name))

end Record

end Json

end ProseLinter
