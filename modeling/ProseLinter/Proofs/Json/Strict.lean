import Mathlib.Data.Bool.AllAny
import ProseLinter.Proofs.Json.Written

/-!
# Strict JSON

A reader of JSON as the standard has it: commas stand between items and nowhere else, strings are in
double quotes and hold no control characters, and nothing but blanks stands behind the value. It
shares with the reader of lenient JSON what digits, hexadecimal digits and escapes of one letter
stand for.

* `Strict.read?` : the value of a text.
* `Strict.value?_chars` : the compact form of a value is read as the value, whatever follows it.
* `Strict.read?_chars` : so it is as a whole text.
-/

namespace ProseLinter.Json.Strict

/-! ### The reader -/

/-- A blank between the parts of a value. -/
def isBlank (c : Char) : Bool :=
  c == ' ' || c == '\t' || c == '\n' || c == '\r'

/-- The rest of a text after the blanks at its start. -/
def skipBlanks (cs : List Char) : List Char :=
  cs.dropWhile isBlank

/-- Reads the rest of a string up to its closing quote. A character is written as it is, by an
escape of one letter, or by the four digits of a code unit, of which two may make up a pair. -/
def string? : List Char → Option (List Char × List Char)
  | [] => none
  | '"' :: rest => some ([], rest)
  | '\\' :: 'u' :: a :: b :: c :: d :: rest => do
    let n ← hexNumber? [a, b, c, d]
    if isHighSurrogate n then
      match rest with
      | '\\' :: 'u' :: e :: f :: g :: h :: rest => do
        let m ← hexNumber? [e, f, g, h]
        if isLowSurrogate m then
          let (s, rest) ← string? rest
          return (Char.ofNat (0x10000 + (n - 0xD800) * 0x400 + (m - 0xDC00)) :: s, rest)
        else none
      | _ => none
    else if isLowSurrogate n then none
    else
      let (s, rest) ← string? rest
      return (Char.ofNat n :: s, rest)
  | '\\' :: e :: rest =>
    if e == '\'' then none
    else do
      let c ← simpleEscape? e
      let (s, rest) ← string? rest
      return (c :: s, rest)
  | c :: rest =>
    if c == '\\' || c.toNat < 0x20 then none
    else do
      let (s, rest) ← string? rest
      return (c :: s, rest)

/-- Whether a minus sign stands in front, and the rest. -/
def sign : List Char → Bool × List Char
  | '-' :: rest => (true, rest)
  | cs => (false, cs)

/-- The digits in front of the point: no other digit follows a zero. -/
def whole? : List Char → Option (List Char × List Char)
  | '0' :: rest => some (['0'], rest)
  | cs => (takeDigits .expectedDigit cs).toOption

/-- Reads a number. -/
def number? (cs : List Char) : Option (Json × List Char) := do
  let (negative, rest) := sign cs
  let (whole, rest) ← whole? rest
  let (fraction?, rest) ← (takeFraction rest).toOption
  let (exponent?, rest) ← (takeExponent rest).toOption
  let exponent? := exponent?.map fun (_, sign, digits) => exponentValue sign digits
  let n ← Number.ofDecimal? negative whole fraction? exponent?
  return (.number n, rest)

mutual

/-- Reads a value of at most `fuel` characters; the blanks before it count too. -/
def value? : (fuel : Nat) → List Char → Option (Json × List Char)
  | 0, _ => none
  | fuel + 1, cs =>
    match skipBlanks cs with
    | [] => none
    | c :: rest =>
      if c == '"' then (string? rest).map fun (s, rest) => (.string (String.ofList s), rest)
      else if c == '[' then
        match skipBlanks rest with
        | ']' :: rest => some (.array [], rest)
        | _ => (items? fuel rest).map fun (items, rest) => (.array items, rest)
      else if c == '\x7b' then
        match skipBlanks rest with
        | '\x7d' :: rest => some (.object [], rest)
        | _ => (fields? fuel rest).map fun (fields, rest) => (ofFields fields, rest)
      else if c == 't' then (['r', 'u', 'e'].isPrefixOf? rest).map fun rest => (.bool true, rest)
      else if c == 'f' then
        (['a', 'l', 's', 'e'].isPrefixOf? rest).map fun rest => (.bool false, rest)
      else if c == 'n' then (['u', 'l', 'l'].isPrefixOf? rest).map fun rest => (.null, rest)
      else number? (c :: rest)

/-- Reads the items of an array, of which there is at least one, and the closing bracket. -/
def items? : (fuel : Nat) → List Char → Option (List Json × List Char)
  | 0, _ => none
  | fuel + 1, cs => do
    let (v, rest) ← value? fuel cs
    match skipBlanks rest with
    | ']' :: rest => return ([v], rest)
    | ',' :: rest => do
      let (items, rest) ← items? fuel rest
      return (v :: items, rest)
    | _ => none

/-- Reads the fields of an object, of which there is at least one, and the closing brace. -/
def fields? : (fuel : Nat) → List Char → Option (List (String × Json) × List Char)
  | 0, _ => none
  | fuel + 1, cs =>
    match skipBlanks cs with
    | '"' :: rest => do
      let (name, rest) ← string? rest
      match skipBlanks rest with
      | ':' :: rest => do
        let (v, rest) ← value? fuel rest
        match skipBlanks rest with
        | '\x7d' :: rest => return ([(String.ofList name, v)], rest)
        | ',' :: rest => do
          let (fields, rest) ← fields? fuel rest
          return ((String.ofList name, v) :: fields, rest)
        | _ => none
      | _ => none
    | _ => none

end

/-- The value of a text, behind which only blanks may stand. -/
def read? (text : List Char) : Option Json := do
  let (v, rest) ← value? text.length text
  if (skipBlanks rest).isEmpty then some v else none

/-! ### Reading what is written -/

variable {rest : List Char} {fuel : Nat}

/-- A written character is read, and the rest of the string after it. -/
theorem string?_append {c : Char} {written : List Char} (h : Escaped c written)
    (rest : List Char) :
    string? (written ++ rest) = (string? rest).map fun p => (c :: p.1, p.2) := by
  cases h with
  | @letter e h hquote =>
    have hu : e ≠ 'u' := by
      rintro rfl
      cases h
    cases htail : string? rest <;> simp [string?, h, hquote, hu, htail]
  | @code x y h hlt =>
    have hhigh := isHighSurrogate_eq_false (n := c.toNat) (by omega)
    have hlow := isLowSurrogate_eq_false (n := c.toNat) (by omega)
    cases htail : string? rest <;> simp [string?, h, hhigh, hlow, htail]
  | plain hquote hbackslash hle =>
    cases htail : string? rest <;> simp [string?, hbackslash, Nat.not_lt.2 hle, htail]

theorem string?_flatMap (s rest : List Char) :
    string? (s.flatMap escapeChar ++ '"' :: rest) = some (s, rest) := by
  induction s with
  | nil => rfl
  | cons c s ih =>
    rw [List.flatMap_cons, List.append_assoc, string?_append (escaped_escapeChar c), ih,
      Option.map_some]

theorem whole?_toDigits (n : Nat) (h : ∀ c ∈ rest.head?, isDigit c = false) :
    whole? (Nat.toDigits 10 n ++ rest) = some (Nat.toDigits 10 n, rest) := by
  rcases toDigits_eq_or n with hzero | ⟨c, cs, hcs, hc⟩
  · rw [hzero]
    rfl
  · have htake := takeDigits_toDigits .expectedDigit n h
    rw [hcs, List.cons_append] at htake ⊢
    rw [whole?, htake]
    · rfl
    · simpa using hc

/-- An integer is read. -/
theorem number?_int {n : Int} (hmin : Number.intMin ≤ n) (hmax : n ≤ Number.intMax)
    (h : Ends rest) : number? ((Number.int n).chars ++ rest) = some (.number (.int n), rest) := by
  have hsign : sign ((Number.int n).chars ++ rest) =
      (decide (n < 0), Nat.toDigits 10 n.natAbs ++ rest) := by
    rw [chars_int, signChars]
    split
    · next hneg => simp [sign, hneg]
    · next hneg =>
      -- No digit is a minus sign.
      obtain ⟨c, cs, hcs, hc⟩ := exists_toDigits_eq_cons n.natAbs
      have hminus : c ≠ '-' := by
        rintro rfl
        cases hc
      simp [sign, hneg, hcs, hminus]
  simp [number?, hsign, whole?_toDigits _ h.isDigit_eq_false, takeFraction_of_ends h,
    takeExponent_of_ends h, Except.toOption, ofDecimal?_toDigits hmin hmax]

/-! ### Arrays and objects -/

/-- The compact form of a value is read, whatever follows it. -/
def Reads (v : Json) : Prop :=
  ∀ fuel rest, Ends rest → v.chars.length ≤ fuel →
    value? fuel (v.chars ++ rest) = some (v.inOrder, rest)

theorem skipBlanks_of_mem_valueStarts {c : Char} (h : c ∈ valueStarts) (cs : List Char) :
    skipBlanks (c :: cs) = c :: cs := by
  have hblank : ∀ c ∈ valueStarts, isBlank c = false := List.all_iff_forall_prop.1 (by decide)
  rw [skipBlanks, List.dropWhile_cons_of_neg (by rw [hblank c h]; exact Bool.false_ne_true)]

/-- Where a value begins behind the opening bracket, the array has items. -/
theorem value?_openBracket {c : Char} (h : c ∈ valueStarts) (fuel : Nat) (cs : List Char) :
    value? (fuel + 1) ('[' :: c :: cs) =
      (items? fuel (c :: cs)).map fun p => (.array p.1, p.2) := by
  have hclose : ∀ c ∈ valueStarts, c ≠ ']' := List.all_iff_forall_prop.1 (by decide)
  have hskip : skipBlanks ('[' :: c :: cs) = '[' :: c :: cs :=
    skipBlanks_of_mem_valueStarts (by decide) _
  simp [value?, hskip, skipBlanks_of_mem_valueStarts h, hclose c h]

/-- Where a name begins behind the opening brace, the object has fields. -/
theorem value?_openBrace (fuel : Nat) (cs : List Char) :
    value? (fuel + 1) ('\x7b' :: '"' :: cs) =
      (fields? fuel ('"' :: cs)).map fun p => (ofFields p.1, p.2) := by
  rw [value?]
  rfl

theorem value?_number {c : Char} (h : c ∈ numberStarts) (fuel : Nat) (cs : List Char) :
    value? (fuel + 1) (c :: cs) = number? (c :: cs) := by
  have hne : ∀ c ∈ numberStarts, c ≠ '"' ∧ c ≠ '[' ∧ c ≠ '\x7b' ∧ c ≠ 't' ∧ c ≠ 'f' ∧ c ≠ 'n' :=
    List.all_iff_forall_prop.1 (by decide)
  have hskip : skipBlanks (c :: cs) = c :: cs :=
    skipBlanks_of_mem_valueStarts (List.mem_append_right _ h) cs
  simp [value?, hskip, hne c h]

/-- Items that are read one by one are read as the items of an array. -/
theorem items?_itemChars {v : Json} {items : List Json} (h : ∀ w ∈ v :: items, Reads w)
    (hlength : (itemChars (v :: items)).length < fuel) (rest : List Char) :
    items? fuel (itemChars (v :: items) ++ ']' :: rest) =
      some ((v :: items).map inOrder, rest) := by
  induction items generalizing v fuel with
  | nil =>
    obtain ⟨fuel, rfl⟩ := Nat.exists_eq_add_one_of_ne_zero (Nat.ne_zero_of_lt hlength)
    have hv := h v List.mem_cons_self fuel (']' :: rest) (ends_cons (by decide) rest)
      (by simpa [itemChars] using Nat.le_of_lt_succ hlength)
    simp [items?, itemChars, hv, skipBlanks, isBlank]
  | cons w items ih =>
    obtain ⟨fuel, rfl⟩ := Nat.exists_eq_add_one_of_ne_zero (Nat.ne_zero_of_lt hlength)
    rw [List.forall_mem_cons] at h
    simp only [itemChars, List.length_append, List.length_cons] at hlength
    have hv := h.1 fuel (',' :: (itemChars (w :: items) ++ ']' :: rest))
      (ends_cons (by decide) _) (by omega)
    have hitems := ih h.2 (show (itemChars (w :: items)).length < fuel by omega)
    simp [items?, itemChars, hv, skipBlanks, isBlank, hitems]

/-- The name of a field is read, and the colon behind it. -/
theorem fields?_stringChars (name : String) (fuel : Nat) (cs : List Char) :
    fields? (fuel + 1) (stringChars name ++ ':' :: cs) =
      (value? fuel cs).bind fun p =>
        match skipBlanks p.2 with
        | '\x7d' :: rest => some ([(name, p.1)], rest)
        | ',' :: rest => (fields? fuel rest).bind fun q => some ((name, p.1) :: q.1, q.2)
        | _ => none := by
  have hname := string?_flatMap name.toList (':' :: cs)
  have hskip : skipBlanks ('"' :: (name.toList.flatMap escapeChar ++ '"' :: ':' :: cs)) =
      '"' :: (name.toList.flatMap escapeChar ++ '"' :: ':' :: cs) :=
    skipBlanks_of_mem_valueStarts (by decide) _
  have hcolon : skipBlanks (':' :: cs) = ':' :: cs := rfl
  simp [fields?, stringChars, hskip, hname, hcolon]

/-- Fields whose values are read one by one are read as the fields of an object. -/
theorem fields?_fieldChars {p : String × Json} {fields : List (String × Json)}
    (h : ∀ q ∈ p :: fields, Reads q.2) (hlength : (fieldChars (p :: fields)).length < fuel)
    (rest : List Char) :
    fields? fuel (fieldChars (p :: fields) ++ '\x7d' :: rest) =
      some ((p :: fields).map fun q => (q.1, inOrder q.2), rest) := by
  induction fields generalizing p fuel with
  | nil =>
    obtain ⟨fuel, rfl⟩ := Nat.exists_eq_add_one_of_ne_zero (Nat.ne_zero_of_lt hlength)
    obtain ⟨name, v⟩ := p
    simp only [fieldChars, List.length_append, List.length_cons] at hlength
    have hv := h (name, v) List.mem_cons_self fuel ('\x7d' :: rest) (ends_cons (by decide) rest)
      (by simp only; omega)
    simp [fieldChars, fields?_stringChars, hv, skipBlanks, isBlank]
  | cons q fields ih =>
    obtain ⟨fuel, rfl⟩ := Nat.exists_eq_add_one_of_ne_zero (Nat.ne_zero_of_lt hlength)
    obtain ⟨name, v⟩ := p
    rw [List.forall_mem_cons] at h
    simp only [fieldChars, List.length_append, List.length_cons] at hlength
    have hv := h.1 fuel (',' :: (fieldChars (q :: fields) ++ '\x7d' :: rest))
      (ends_cons (by decide) _) (by simp only; omega)
    have hfields := ih h.2 (show (fieldChars (q :: fields)).length < fuel by omega)
    simp [fieldChars, fields?_stringChars, hv, skipBlanks, isBlank, hfields]

/-- A value has a character, so only positive numbers of characters matter. -/
theorem reads_of_succ {v : Json} (h : v.Whole)
    (hsucc : ∀ fuel rest, Ends rest → v.chars.length ≤ fuel + 1 →
      value? (fuel + 1) (v.chars ++ rest) = some (v.inOrder, rest)) : Reads v := by
  intro fuel rest hends hlength
  obtain ⟨c, cs, hcs, -⟩ := h.exists_chars_eq_cons
  have hfuel : fuel ≠ 0 := by
    rintro rfl
    simp [hcs] at hlength
  obtain ⟨fuel, rfl⟩ := Nat.exists_eq_add_one_of_ne_zero hfuel
  exact hsucc fuel rest hends hlength

/-- The compact form of a value is read as the value, whatever follows it. -/
theorem value?_chars {v : Json} (h : v.Whole) : Reads v := by
  -- By induction on the value: the items of an array and the values of an object are read before.
  induction h with
  | null => exact reads_of_succ .null fun fuel rest _ _ => rfl
  | bool b => exact reads_of_succ (.bool b) fun fuel rest _ _ => by cases b <;> rfl
  | @int n hmin hmax =>
    refine reads_of_succ (.int hmin hmax) fun fuel rest hends _ => ?_
    obtain ⟨c, cs, hcs, hc⟩ := exists_chars_int_eq_cons n
    have hread := number?_int hmin hmax hends
    rw [hcs, List.cons_append] at hread
    rw [chars, inOrder, hcs, List.cons_append, value?_number hc, hread]
  | string s =>
    refine reads_of_succ (.string s) fun fuel rest _ _ => ?_
    have hread := string?_flatMap s.toList rest
    have hskip : skipBlanks ('"' :: (s.toList.flatMap escapeChar ++ '"' :: rest)) =
        '"' :: (s.toList.flatMap escapeChar ++ '"' :: rest) :=
      skipBlanks_of_mem_valueStarts (by decide) _
    simp [value?, chars, stringChars, inOrder, hskip, hread]
  | @array items h ih =>
    refine reads_of_succ (.array h) fun fuel rest _ hlength => ?_
    cases items with
    | nil => rfl
    | cons v items =>
      rw [chars, List.length_append, List.length_cons, List.length_singleton] at hlength
      have hitems := items?_itemChars ih (show _ < fuel by omega) rest
      obtain ⟨c, cs, hcs, hc⟩ := (h v List.mem_cons_self).exists_itemChars_eq_cons items
      rw [hcs, List.cons_append] at hitems
      simp only [chars, inOrder, itemsInOrder_eq_map, hcs, List.cons_append, List.append_assoc,
        List.nil_append, value?_openBracket hc, hitems, Option.map_some]
  | @object fields h ih =>
    refine reads_of_succ (.object h) fun fuel rest _ hlength => ?_
    cases fields with
    | nil => rfl
    | cons p fields =>
      rw [chars, List.length_append, List.length_cons, List.length_singleton] at hlength
      have hfields := fields?_fieldChars ih (show _ < fuel by omega) rest
      obtain ⟨cs, hcs⟩ := exists_fieldChars_eq_cons p fields
      rw [hcs, List.cons_append] at hfields
      simp only [chars, inOrder, fieldsInOrder_eq_map, hcs, List.cons_append, List.append_assoc,
        List.nil_append, value?_openBrace, hfields, Option.map_some]

/-- The compact form of a value is read as the value. -/
theorem read?_chars {v : Json} (h : v.Whole) : read? v.chars = some v.inOrder := by
  have hread := value?_chars h v.chars.length [] ends_nil (Nat.le_refl _)
  rw [List.append_nil] at hread
  rw [read?, hread]
  rfl

end ProseLinter.Json.Strict
