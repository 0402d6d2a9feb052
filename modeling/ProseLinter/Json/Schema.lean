import ProseLinter.Json.Printer

/-!
# Schemas

A small language of conditions on JSON values. Validation reports the first condition that fails,
visiting the fields of an object in order of their names and the items of an array in order.

* `Schema.violation?` finds the first violation and where it is.
* `Violation.pointer` writes the way to the value at fault.
-/

namespace ProseLinter

/-- A condition on a JSON value. -/
inductive Schema where
  /-- Any value. -/
  | any
  /-- A boolean. -/
  | boolean
  /-- A string of at least so many characters. -/
  | string (minLength : Nat)
  /-- One of the given strings. -/
  | choice (values : List String)
  /-- An array of values that satisfy a condition. -/
  | array (items : Schema)
  /-- An object without other fields than the given ones. -/
  | closed (fields : List (String × Schema))
  /-- An object whose fields of the given names satisfy conditions. -/
  | opened (fields : List (String × Schema))
  /-- An object all of whose fields satisfy a condition. -/
  | map (values : Schema)
  /-- A value that satisfies exactly one of the conditions. -/
  | oneOf (alternatives : List Schema)

namespace Schema

/-- A violation: its text and the names and indices that lead to the value at fault. -/
structure Violation where
  text : String
  path : List String

/-- The violation as seen from the value around the one at fault. -/
def Violation.inside (step : String) (v : Violation) : Violation :=
  { v with path := step :: v.path }

/-- A value of the wrong type. -/
def wrongType (v : Json) (type : String) : Option Violation :=
  some ⟨v.render ++ " is not of type \"" ++ type ++ "\"", []⟩

/-- A value that is none of those listed. -/
def notListed (v : Json) (values : List String) : Option Violation :=
  let listed := values.map fun s => (Json.string s).render
  some ⟨v.render ++ " is not one of " ++ String.intercalate ", " listed, []⟩

mutual

/-- The first violation of a schema by a value. -/
def violation? : Schema → Json → Option Violation
  | .any, _ => none
  | .boolean, v =>
    match v with
    | .bool _ => none
    | v => wrongType v "boolean"
  | .string minLength, v =>
    match v with
    | .string s =>
      if minLength ≤ s.length then none
      else
        some ⟨v.render ++ " is shorter than " ++ toString minLength
          ++ (if minLength == 1 then " character" else " characters"), []⟩
    | v => wrongType v "string"
  | .choice values, v =>
    match v with
    | .string s =>
      if values.contains s then none else notListed v values
    | v => notListed v values
  | .array items, v =>
    match v with
    | .array vs =>
      vs.zipIdx.findSome? fun (w, i) => (violation? items w).map (·.inside (toString i))
    | v => wrongType v "array"
  | .closed fields, v =>
    match v with
    | .object entries =>
      entries.findSome? fun (name, w) =>
        match fieldViolation? fields name w with
        | some found => found.map (·.inside name)
        | none =>
          some ⟨"Additional properties are not allowed ('" ++ name ++ "' was unexpected)", []⟩
    | v => wrongType v "object"
  | .opened fields, v =>
    match v with
    | .object entries =>
      entries.findSome? fun (name, w) =>
        match fieldViolation? fields name w with
        | some found => found.map (·.inside name)
        | none => none
    | v => wrongType v "object"
  | .map values, v =>
    match v with
    | .object entries =>
      entries.findSome? fun (name, w) => (violation? values w).map (·.inside name)
    | v => wrongType v "object"
  | .oneOf alternatives, v =>
    match countAccepting alternatives v with
    | 1 => none
    | 0 =>
      some ⟨v.render ++ " is not valid under any of the schemas listed in the 'oneOf' keyword", []⟩
    | _ =>
      some ⟨v.render
        ++ " is valid under more than one of the schemas listed in the 'oneOf' keyword", []⟩

/-- The violation by the field of a given name, or none when the schema does not know the name. -/
def fieldViolation? : List (String × Schema) → String → Json → Option (Option Violation)
  | [], _, _ => none
  | (n, s) :: rest, name, v =>
    if n == name then some (violation? s v) else fieldViolation? rest name v

/-- How many schemas accept a value. -/
def countAccepting : List Schema → Json → Nat
  | [], _ => 0
  | s :: rest, v => (if (violation? s v).isNone then 1 else 0) + countAccepting rest v

end

/-- The path of a violation, each step after a slash; a tilde and a slash inside a step are
escaped. -/
def Violation.pointer (v : Violation) : String :=
  String.ofList (v.path.flatMap fun step => '/' :: step.toList.flatMap escape)
where
  escape (c : Char) : List Char :=
    if c == '~' then ['~', '0'] else if c == '/' then ['~', '1'] else [c]

end Schema

end ProseLinter
