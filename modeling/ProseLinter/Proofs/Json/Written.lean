import Mathlib.Data.List.Basic
import ProseLinter.Json.Printer
import ProseLinter.Json.Token

/-!
# Written values

What stands in the compact form of a value: digits, escapes, and what may follow a value. Every
reader of JSON meets the same pieces, so what they mean is said here once.

* `Json.Whole` : values whose numbers are integers of 64 bits, and so are written with digits only.
* `Json.inOrder` : the value as it is read, with the fields of objects in order.
* `Json.Escaped` : the three ways in which a character of a string is written.
* `Json.takeDigits_toDigits` and `Json.ofDecimal?_toDigits` : the digits of a number read back.
-/

namespace ProseLinter.Json

/-! ### Values that are read back -/

/-- All numbers in the value are integers of 64 bits. -/
inductive Whole : Json → Prop
  | null : Whole .null
  | bool (b : Bool) : Whole (.bool b)
  | int {n : Int} (hmin : Number.intMin ≤ n) (hmax : n ≤ Number.intMax) : Whole (.number (.int n))
  | string (s : String) : Whole (.string s)
  | array {items : List Json} (h : ∀ v ∈ items, Whole v) : Whole (.array items)
  | object {fields : List (String × Json)} (h : ∀ p ∈ fields, Whole p.2) : Whole (.object fields)

mutual

/-- The value with the fields of all its objects in increasing order of names. -/
def inOrder : Json → Json
  | .null => .null
  | .bool b => .bool b
  | .number n => .number n
  | .string s => .string s
  | .array items => .array (itemsInOrder items)
  | .object fields => ofFields (fieldsInOrder fields)

/-- The items of an array, each in order. -/
def itemsInOrder : List Json → List Json
  | [] => []
  | v :: items => inOrder v :: itemsInOrder items

/-- The fields of an object, each value in order. -/
def fieldsInOrder : List (String × Json) → List (String × Json)
  | [] => []
  | (name, v) :: fields => (name, inOrder v) :: fieldsInOrder fields

end

theorem itemsInOrder_eq_map (items : List Json) : itemsInOrder items = items.map inOrder := by
  induction items with
  | nil => rfl
  | cons v items ih => rw [itemsInOrder, ih, List.map_cons]

theorem fieldsInOrder_eq_map (fields : List (String × Json)) :
    fieldsInOrder fields = fields.map fun p => (p.1, inOrder p.2) := by
  induction fields with
  | nil => rfl
  | cons p fields ih => rw [fieldsInOrder, ih, List.map_cons]

/-! ### Strings -/

/-- How a character is written in a string: by an escape of one letter, by its number, or as it
is. -/
inductive Escaped (c : Char) : List Char → Prop
  | letter {e : Char} (h : simpleEscape? e = some c) (hquote : e ≠ '\'') : Escaped c ['\\', e]
  | code {x y : Char} (h : hexNumber? ['0', '0', x, y] = some c.toNat) (hlt : c.toNat < 0x20) :
      Escaped c ['\\', 'u', '0', '0', x, y]
  | plain (hquote : c ≠ '"') (hbackslash : c ≠ '\\') (hle : 0x20 ≤ c.toNat) : Escaped c [c]

theorem hexNumber?_hexDigit {n : Nat} (h : n < 0x20) :
    hexNumber? ['0', '0', hexDigit (n / 16), hexDigit (n % 16)] = some n := by
  revert n
  decide

theorem isHighSurrogate_eq_false {n : Nat} (h : n < 0xD800) : isHighSurrogate n = false := by
  simp [isHighSurrogate]
  omega

theorem isLowSurrogate_eq_false {n : Nat} (h : n < 0xD800) : isLowSurrogate n = false := by
  simp [isLowSurrogate]
  omega

theorem escaped_escapeChar (c : Char) : Escaped c (escapeChar c) := by
  have hchar {n : Nat} (h : c.toNat = n) : Char.ofNat n = c := by rw [← h, Char.ofNat_toNat]
  rw [escapeChar]
  split
  · next h =>
    obtain rfl := eq_of_beq h
    exact .letter rfl (by decide)
  split
  · next h =>
    obtain rfl := eq_of_beq h
    exact .letter rfl (by decide)
  split
  · next h => exact .letter (congrArg some (hchar (eq_of_beq h))) (by decide)
  split
  · next h => exact .letter (congrArg some (hchar (eq_of_beq h))) (by decide)
  split
  · next h => exact .letter (congrArg some (hchar (eq_of_beq h))) (by decide)
  split
  · next h => exact .letter (congrArg some (hchar (eq_of_beq h))) (by decide)
  split
  · next h => exact .letter (congrArg some (hchar (eq_of_beq h))) (by decide)
  split
  · next h => exact .code (hexNumber?_hexDigit h) h
  · next hquote hbackslash _ _ _ _ _ h =>
    exact .plain (by simpa using hquote) (by simpa using hbackslash) (Nat.le_of_not_lt h)

/-! ### Numbers -/

/-- What may stand behind a value in an array or object: a comma or a closing bracket. -/
def Ends (rest : List Char) : Prop :=
  ∀ c ∈ rest.head?, c = ',' ∨ c = ']' ∨ c = '\x7d'

theorem ends_nil : Ends [] := by
  simp [Ends]

theorem ends_cons {c : Char} (h : c = ',' ∨ c = ']' ∨ c = '\x7d') (rest : List Char) :
    Ends (c :: rest) := by
  simpa [Ends] using h

variable {rest : List Char}

theorem Ends.isDigit_eq_false (h : Ends rest) : ∀ c ∈ rest.head?, isDigit c = false := by
  intro c hc
  rcases h c hc with rfl | rfl | rfl <;> rfl

theorem isDigit_of_mem_toDigits {n : Nat} {c : Char} (h : c ∈ Nat.toDigits 10 n) :
    isDigit c = true :=
  Nat.isDigit_of_mem_toDigits (by decide) (Nat.le_refl 10) h

theorem exists_toDigits_eq_cons (n : Nat) :
    ∃ c cs, Nat.toDigits 10 n = c :: cs ∧ isDigit c = true := by
  obtain ⟨c, cs, hcs⟩ := List.exists_cons_of_ne_nil (Nat.toDigits_ne_nil (n := n) (b := 10))
  exact ⟨c, cs, hcs, isDigit_of_mem_toDigits (hcs ▸ List.mem_cons_self)⟩

/-- The characters with which a number begins. -/
def numberStarts : List Char :=
  ['-', '0', '1', '2', '3', '4', '5', '6', '7', '8', '9']

theorem mem_numberStarts_of_isDigit {c : Char} (h : isDigit c = true) : c ∈ numberStarts := by
  rw [isDigit, Bool.and_eq_true, decide_eq_true_iff, decide_eq_true_iff, Char.le_def,
    Char.le_def] at h
  have hrange : ∀ n < 10, Char.ofNat (48 + n) ∈ numberStarts := by decide
  have hlow : 48 ≤ c.toNat := h.1
  have hhigh : c.toNat ≤ 57 := h.2
  have hc := hrange (c.toNat - 48) (by omega)
  rwa [Nat.add_sub_cancel' hlow, Char.ofNat_toNat] at hc

/-- The digits of a number are a zero, or do not begin with one. -/
theorem toDigits_eq_or (n : Nat) :
    Nat.toDigits 10 n = ['0'] ∨ ∃ c cs, Nat.toDigits 10 n = c :: cs ∧ c ≠ '0' := by
  induction n using Nat.strongRecOn with
  | ind n ih =>
    rcases Nat.lt_or_ge n 10 with hlt | hle
    · have hdigit : ∀ d < 10, d ≠ 0 → d.digitChar ≠ '0' := by decide
      rw [Nat.toDigits_of_lt_base hlt]
      rcases Nat.eq_zero_or_pos n with rfl | hpos
      · exact .inl rfl
      · exact .inr ⟨_, [], rfl, hdigit n hlt (Nat.pos_iff_ne_zero.1 hpos)⟩
    · right
      rw [Nat.toDigits_of_base_le (by decide) hle]
      -- The digits in front are those of a number that is not zero.
      rcases ih (n / 10) (by omega) with hzero | ⟨c, cs, hcs, hc⟩
      · have hpos : n / 10 = 0 := by
          rw [← Nat.ofDigitChars_ten_toDigits (n := n / 10), hzero]
          rfl
        omega
      · exact ⟨c, cs ++ [(n % 10).digitChar], by rw [hcs, List.cons_append], hc⟩

theorem takeDigits_toDigits (cause : Cause) (n : Nat)
    (h : ∀ c ∈ rest.head?, isDigit c = false) :
    takeDigits cause (Nat.toDigits 10 n ++ rest) = .ok (Nat.toDigits 10 n, rest) := by
  have hdigits : ∀ c ∈ Nat.toDigits 10 n, isDigit c = true := fun c hc =>
    isDigit_of_mem_toDigits hc
  have htake : (Nat.toDigits 10 n ++ rest).takeWhile isDigit = Nat.toDigits 10 n := by
    rw [List.takeWhile_append_of_pos hdigits]
    cases rest with
    | nil => simp
    | cons c rest => simp [h c rfl]
  have hdrop : (Nat.toDigits 10 n ++ rest).dropWhile isDigit = rest := by
    rw [List.dropWhile_append_of_pos hdigits]
    cases rest with
    | nil => rfl
    | cons c rest => simp [h c rfl]
  obtain ⟨c, cs, hcs, hc⟩ := exists_toDigits_eq_cons n
  rw [hcs, List.cons_append] at htake hdrop ⊢
  rw [takeDigits, if_pos hc, htake, hdrop]

/-- No fraction follows an integer. -/
theorem takeFraction_of_ends (h : Ends rest) : takeFraction rest = .ok (none, rest) := by
  cases rest with
  | nil => rfl
  | cons c rest => rcases h c rfl with rfl | rfl | rfl <;> rfl

/-- No exponent follows an integer. -/
theorem takeExponent_of_ends (h : Ends rest) : takeExponent rest = .ok (none, rest) := by
  cases rest with
  | nil => rfl
  | cons c rest => rcases h c rfl with rfl | rfl | rfl <;> rfl

/-- The sign in front of the digits of an integer. -/
def signChars (n : Int) : List Char :=
  if n < 0 then ['-'] else []

theorem chars_int (n : Int) :
    (Number.int n).chars = signChars n ++ Nat.toDigits 10 n.natAbs := by
  rw [Number.chars, Int.toString_eq_repr, Int.repr_eq_if, signChars]
  split
  · next h =>
    rw [if_neg (by omega), Nat.repr_eq_ofList_toDigits, String.toList_ofList,
      show n.toNat = n.natAbs by omega]
    rfl
  · next h =>
    rw [if_pos (by omega), Nat.repr_eq_ofList_toDigits, String.toList_append,
      show (-n).toNat = n.natAbs by omega, String.toList_ofList, String.toList_ofList]

/-- The digits of an integer of 64 bits stand for it. -/
theorem ofDecimal?_toDigits {n : Int} (hmin : Number.intMin ≤ n) (hmax : n ≤ Number.intMax) :
    Number.ofDecimal? (decide (n < 0)) (Nat.toDigits 10 n.natAbs) none none = some (.int n) := by
  have hfold : (Nat.toDigits 10 n.natAbs).foldl (fun m c => 10 * m + Number.digitValue c) 0 =
      n.natAbs := Nat.ofDigitChars_ten_toDigits
  have hvalue : (if decide (n < 0) = true then -(n.natAbs : Int) else n.natAbs) = n := by
    split
    · next h =>
      have := of_decide_eq_true h
      omega
    · next h =>
      have := of_decide_eq_false (Bool.eq_false_iff.2 h)
      omega
  rw [Number.ofDecimal?, hfold, hvalue]
  have hzero : (decide (n < 0) && n.natAbs == 0) = false := by
    rw [Bool.and_eq_false_iff, decide_eq_false_iff_not, beq_eq_false_iff_ne]
    omega
  simp [hzero, Int.not_lt.2 hmin, Int.not_lt.2 hmax]

/-! ### How values begin -/

/-- The characters with which a value begins. -/
def valueStarts : List Char :=
  ['n', 't', 'f', '"', '[', '\x7b'] ++ numberStarts

/-- The compact form of an integer begins with a sign or a digit. -/
theorem exists_chars_int_eq_cons (n : Int) :
    ∃ c cs, (Number.int n).chars = c :: cs ∧ c ∈ numberStarts := by
  rw [chars_int, signChars]
  split
  · exact ⟨_, _, rfl, List.mem_cons_self⟩
  · obtain ⟨c, cs, hcs, hc⟩ := exists_toDigits_eq_cons n.natAbs
    exact ⟨c, cs, hcs, mem_numberStarts_of_isDigit hc⟩

theorem Whole.exists_chars_eq_cons {v : Json} (h : v.Whole) :
    ∃ c cs, v.chars = c :: cs ∧ c ∈ valueStarts := by
  cases h with
  | null => exact ⟨_, _, rfl, by decide⟩
  | bool b => cases b <;> exact ⟨_, _, rfl, by decide⟩
  | @int n hmin hmax =>
    obtain ⟨c, cs, hcs, hc⟩ := exists_chars_int_eq_cons n
    exact ⟨c, cs, by rw [chars, hcs], List.mem_append_right _ hc⟩
  | string s => exact ⟨_, _, rfl, by decide⟩
  | array h => exact ⟨_, _, rfl, by decide⟩
  | object h => exact ⟨_, _, rfl, by decide⟩

/-- Items begin as the first of them does. -/
theorem Whole.exists_itemChars_eq_cons {v : Json} (h : v.Whole) (items : List Json) :
    ∃ c cs, itemChars (v :: items) = c :: cs ∧ c ∈ valueStarts := by
  obtain ⟨c, cs, hcs, hc⟩ := h.exists_chars_eq_cons
  cases items with
  | nil => exact ⟨c, cs, by rw [itemChars, hcs], hc⟩
  | cons w items => exact ⟨c, _, by rw [itemChars, hcs, List.cons_append], hc⟩

/-- Fields begin with the quote of a name. -/
theorem exists_fieldChars_eq_cons (p : String × Json) (fields : List (String × Json)) :
    ∃ cs, fieldChars (p :: fields) = '"' :: cs := by
  cases fields with
  | nil => exact ⟨_, by rw [fieldChars, stringChars, List.cons_append, List.cons_append]⟩
  | cons q fields => exact ⟨_, by rw [fieldChars, stringChars, List.cons_append, List.cons_append]⟩

end ProseLinter.Json
