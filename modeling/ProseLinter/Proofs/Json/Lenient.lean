import Mathlib.Data.Bool.AllAny
import ProseLinter.Json.Reader
import ProseLinter.Proofs.Json.Written

/-!
# Written values and the lenient reader

What is written as compact JSON is lenient JSON too, and the reader of lenient JSON reads it as the
value that was written. The reader goes through a text token by token; that it gets from one place
of the text to another, and from one state to another, is a relation here, and so the steps for the
parts of a value make up those for the value.

* `Reader.Leads` : the reader gets to a place and a state.
* `Reader.leads_of_whole` : it gets from the start of a value to its end, and holds the value.
* `read_chars` : so it reads a whole text.
-/

namespace ProseLinter.Json

open Reader

variable {rest : List Char}

/-! ### Tokens -/

/-- A code unit that is no surrogate is read as its character, whatever follows. -/
theorem scanString_code {a b c d : Char} {n : Nat} (h : hexNumber? [a, b, c, d] = some n)
    (hn : n < 0xD800) (quote : Char) (start acc rest : List Char) :
    scanString quote start acc ('\\' :: 'u' :: a :: b :: c :: d :: rest) =
      scanString quote start (Char.ofNat n :: acc) rest := by
  have hhigh := isHighSurrogate_eq_false hn
  have hlow := isLowSurrogate_eq_false hn
  -- Where another code unit follows, the reader looks at it too, for a pair.
  by_cases hunit : ∃ tail, rest = '\\' :: 'u' :: tail
  · obtain ⟨tail, rfl⟩ := hunit
    by_cases hpair : ∃ e f g h tail', tail = e :: f :: g :: h :: tail'
    · obtain ⟨e, f, g, h', tail, rfl⟩ := hpair
      rw [scanString]
      simp [h, hhigh, hlow]
    · rw [scanString]
      · simp [h, hhigh, hlow]
      · rintro e f g h' tail' heq
        cases heq
        exact hpair ⟨e, f, g, h', tail', rfl⟩
  · rw [scanString]
    · simp [h, hhigh, hlow]
    · rintro e f g h' tail rfl
      exact hunit ⟨_, rfl⟩
    · rintro tail rfl
      exact hunit ⟨_, rfl⟩

/-- A written character is read on to the characters of a string. -/
theorem scanString_append {c : Char} {written : List Char} (h : Escaped c written)
    (start acc rest : List Char) :
    scanString '"' start acc (written ++ rest) = scanString '"' start (c :: acc) rest := by
  cases h with
  | @letter e h hquote =>
    have hu : e ≠ 'u' := by
      rintro rfl
      cases h
    simp [scanString, h, hquote, hu]
  | @code x y h hlt =>
    have hread := scanString_code h (by omega) '"' start acc rest
    rwa [Char.ofNat_toNat] at hread
  | plain hquote hbackslash hle => simp [scanString, hquote, hbackslash]

/-- The characters of a string are read up to its closing quote. -/
theorem scanString_flatMap (start acc s rest : List Char) :
    scanString '"' start acc (s.flatMap escapeChar ++ '"' :: rest) =
      .ok (String.ofList (acc.reverse ++ s), rest) := by
  induction s generalizing acc with
  | nil => simp [scanString]
  | cons c s ih =>
    rw [List.flatMap_cons, List.append_assoc, scanString_append (escaped_escapeChar c), ih,
      List.reverse_cons, List.append_assoc, List.singleton_append]

/-- The digits of an integer are a token, after its sign. -/
theorem scanUnsigned_toDigits {m : Nat} {n : Int} {sign : List Char}
    (hvalue : Number.ofDecimal? (sign == ['-']) (Nat.toDigits 10 m) none none = some (.int n))
    (h : Ends rest) :
    ∃ text, scanUnsigned sign (Nat.toDigits 10 m ++ rest) =
      .ok (.number text (.number (.int n)), rest) := by
  have htake := takeDigits_toDigits .expectedDigitAfterSign m h.isDigit_eq_false
  unfold scanUnsigned
  extract_lets negative decimal
  have hdecimal : ∃ text, decimal (Nat.toDigits 10 m) rest =
      .ok (.number text (.number (.int n)), rest) := by
    simp [decimal, negative, takeFraction_of_ends h, takeExponent_of_ends h, decimalLiteral, hvalue,
      bind, Except.bind, pure, Except.pure]
  rcases toDigits_eq_or m with hzero | ⟨c, cs, hcs, hc⟩
  · -- What ends a number is not the mark of a hexadecimal one.
    rw [hzero] at hdecimal ⊢
    cases rest with
    | nil => exact hdecimal
    | cons c rest => rcases h c rfl with rfl | rfl | rfl <;> exact hdecimal
  · rw [hcs, List.cons_append] at htake ⊢
    split
    · next heq => exact absurd (List.cons.inj heq).1 hc
    · next heq => exact absurd (List.cons.inj heq).1 hc
    · rw [htake, ← hcs]
      exact hdecimal

/-- An integer is a token. -/
theorem scanNumber_int {n : Int} (hmin : Number.intMin ≤ n) (hmax : n ≤ Number.intMax)
    (h : Ends rest) :
    ∃ text, scanNumber ((Number.int n).chars ++ rest) =
      .ok (.number text (.number (.int n)), rest) := by
  have hvalue := ofDecimal?_toDigits hmin hmax
  rw [chars_int, signChars]
  split
  · next hneg =>
    rw [decide_eq_true hneg] at hvalue
    exact scanUnsigned_toDigits hvalue h
  · next hneg =>
    rw [decide_eq_false hneg] at hvalue
    obtain ⟨text, hscan⟩ : ∃ text, scanUnsigned [] (Nat.toDigits 10 n.natAbs ++ rest) =
        .ok (.number text (.number (.int n)), rest) :=
      scanUnsigned_toDigits hvalue h
    obtain ⟨c, cs, hcs, hc⟩ := exists_toDigits_eq_cons n.natAbs
    have hsign : (c == '-' || c == '+') = false := by
      rw [Bool.or_eq_false_iff, beq_eq_false_iff_ne, beq_eq_false_iff_ne]
      constructor <;> rintro rfl <;> cases hc
    rw [hcs, List.cons_append] at hscan
    refine ⟨text, ?_⟩
    rw [hcs, List.nil_append, List.cons_append, scanNumber, hsign, if_neg Bool.false_ne_true, hscan]

theorem scanToken_quote (s : String) (rest : List Char) :
    scanToken '"' (s.toList.flatMap escapeChar ++ '"' :: rest) = .ok (.string s, rest) := by
  have hscan := scanString_flatMap ('"' :: (s.toList.flatMap escapeChar ++ '"' :: rest)) []
    s.toList rest
  simp [scanToken, hscan, Except.map]

/-- A token that begins with a sign or a digit is a number. -/
theorem scanToken_number {c : Char} (h : c ∈ numberStarts) (cs : List Char) :
    scanToken c cs = scanNumber (c :: cs) := by
  have hne : ∀ c ∈ numberStarts, c ≠ '\x7b' ∧ c ≠ '\x7d' ∧ c ≠ '[' ∧ c ≠ ']' ∧ c ≠ ',' ∧ c ≠ ':' ∧
      c ≠ '"' ∧ c ≠ '\'' ∧ (c = '-' ∨ isDigit c = true) :=
    List.all_iff_forall_prop.1 (by decide)
  have hc := hne c h
  have hnumber : (c == '-' || c == '+' || isDigit c) = true := by
    rcases hc.2.2.2.2.2.2.2.2 with rfl | hdigit
    · rfl
    · simp [hdigit]
  simp [scanToken, hc, hnumber]

/-- A keyword is a token where a value ends behind it. -/
theorem scanToken_keyword (h : Ends rest) :
    scanToken 'n' ('u' :: 'l' :: 'l' :: rest) = .ok (.null, rest) ∧
      scanToken 't' ('r' :: 'u' :: 'e' :: rest) = .ok (.bool true, rest) ∧
      scanToken 'f' ('a' :: 'l' :: 's' :: 'e' :: rest) = .ok (.bool false, rest) := by
  cases rest with
  | nil => exact ⟨rfl, rfl, rfl⟩
  | cons c rest => rcases h c rfl with rfl | rfl | rfl <;> exact ⟨rfl, rfl, rfl⟩

/-! ### The way of the reader -/

namespace Reader

/-- From a state and a place in the text the reader gets to another state and place: what it comes
to from the one on, it comes to from the other. -/
def Leads (r : Reader) (cs : List Char) (r' : Reader) (cs' : List Char) : Prop :=
  ∀ fuel, cs.length ≤ fuel →
    ∃ fuel', cs'.length ≤ fuel' ∧ r.run (scanFrom fuel cs) = r'.run (scanFrom fuel' cs')

variable {r r' r'' : Reader} {c : Char} {cs cs' cs'' : List Char}

theorem Leads.trans (h : Leads r cs r' cs') (h' : Leads r' cs' r'' cs'') :
    Leads r cs r'' cs'' := by
  intro fuel hfuel
  obtain ⟨fuel', hfuel', hrun⟩ := h fuel hfuel
  obtain ⟨fuel'', hfuel'', hrun'⟩ := h' fuel' hfuel'
  exact ⟨fuel'', hfuel'', hrun.trans hrun'⟩

/-- One token leads on. -/
theorem leads_token {token : Token} (hblank : Text.isBlank c = false) (hslash : c ≠ '/')
    (hscan : scanToken c cs = .ok (token, cs')) (hlength : cs'.length ≤ cs.length)
    (hstep : r.step token (c :: cs) = .ok r') : Leads r (c :: cs) r' cs' := by
  rintro (_ | fuel) hfuel
  · cases hfuel
  · refine ⟨fuel, Nat.le_trans hlength (Nat.le_of_succ_le_succ hfuel), ?_⟩
    have htokens : scanFrom (fuel + 1) (c :: cs) = .token token (c :: cs) (scanFrom fuel cs') := by
      rw [scanFrom.eq_def]
      simp only [hblank, Bool.false_eq_true, if_false]
      split
      · exact absurd rfl hslash
      · exact absurd rfl hslash
      · exact absurd rfl hslash
      · rw [hscan]
    rw [htokens, run, hstep]

/-- Where a value may begin, also as an item of an array. -/
def Opens (expect : Expect) : Prop :=
  expect = .value ∨ expect = .item

variable {frames : List Frame} {expect : Expect}

/-- The first token of a value leads on. -/
theorem leads_value {token : Token} (hexpect : Opens expect) (hc : c ∈ valueStarts)
    (hscan : scanToken c cs = .ok (token, cs')) (hlength : cs'.length ≤ cs.length)
    (hvalue : Reader.value frames token (c :: cs) = .ok r') :
    Leads ⟨expect, frames⟩ (c :: cs) r' cs' := by
  have hstart : ∀ c ∈ valueStarts, Text.isBlank c = false ∧ c ≠ '/' :=
    List.all_iff_forall_prop.1 (by decide)
  refine leads_token (hstart c hc).1 (hstart c hc).2 hscan hlength ?_
  rcases hexpect with rfl | rfl
  · exact hvalue
  · change item frames token (c :: cs) = .ok r'
    unfold item
    split
    · cases hvalue
    · exact hvalue

/-- The reader gets from the start of a value to its end, and holds the value. -/
def Carries (v : Json) : Prop :=
  ∀ frames rest expect, Opens expect → Ends rest →
    Leads ⟨expect, frames⟩ (v.chars ++ rest) (close frames v.inOrder) rest

/-- Items that are read one by one are read as the items of an array that is open. -/
theorem leads_itemChars {items : List Json} (h : ∀ v ∈ items, Carries v) (start : List Char)
    (acc : List Json) (frames : List Frame) (rest : List Char) :
    Leads ⟨.item, .array start acc :: frames⟩ (itemChars items ++ ']' :: rest)
      (close frames (.array (acc.reverse ++ items.map inOrder))) rest := by
  induction items generalizing acc with
  | nil =>
    rw [List.map_nil, List.append_nil]
    exact leads_token rfl (by decide) rfl (Nat.le_refl _) rfl
  | cons v items ih =>
    rw [List.forall_mem_cons] at h
    have hacc : acc.reverse ++ (v :: items).map inOrder =
        (v.inOrder :: acc).reverse ++ items.map inOrder := by simp
    rw [hacc]
    cases items with
    | nil =>
      refine (h.1 _ (']' :: rest) .item (.inr rfl) (ends_cons (by decide) rest)).trans ?_
      rw [List.map_nil, List.append_nil]
      exact leads_token rfl (by decide) rfl (Nat.le_refl _) rfl
    | cons w items =>
      rw [itemChars, List.append_assoc, List.cons_append]
      refine (h.1 _ (',' :: (itemChars (w :: items) ++ ']' :: rest)) .item (.inr rfl)
        (ends_cons (by decide) _)).trans ?_
      refine Leads.trans ?_ (ih h.2 (v.inOrder :: acc))
      exact leads_token rfl (by decide) rfl (Nat.le_refl _) rfl

/-- The name of a field and the colon behind it are read. -/
theorem leads_name (name : String) (start : List Char) (acc : List (String × Json))
    (before : String) (frames : List Frame) (rest : List Char) :
    Leads ⟨.name, .object start acc before :: frames⟩ (stringChars name ++ ':' :: rest)
      ⟨.value, .object start acc name :: frames⟩ rest := by
  have hquote := scanToken_quote name (':' :: rest)
  simp only [stringChars, List.cons_append, List.append_assoc, List.nil_append]
  have hcolon : Leads ⟨.colon, .object start acc name :: frames⟩ (':' :: rest)
      ⟨.value, .object start acc name :: frames⟩ rest :=
    leads_token rfl (by decide) rfl (Nat.le_refl _) rfl
  refine Leads.trans (leads_token rfl (by decide) hquote ?_ rfl) hcolon
  simp
  omega

/-- Fields whose values are read one by one are read as the fields of an object that is open. -/
theorem leads_fieldChars {fields : List (String × Json)} (h : ∀ p ∈ fields, Carries p.2)
    (start : List Char) (acc : List (String × Json)) (before : String) (frames : List Frame)
    (rest : List Char) :
    Leads ⟨.name, .object start acc before :: frames⟩ (fieldChars fields ++ '\x7d' :: rest)
      (close frames (ofFields (acc.reverse ++ fields.map fun p => (p.1, inOrder p.2)))) rest := by
  induction fields generalizing acc before with
  | nil =>
    rw [List.map_nil, List.append_nil]
    exact leads_token rfl (by decide) rfl (Nat.le_refl _) rfl
  | cons p fields ih =>
    obtain ⟨name, v⟩ := p
    rw [List.forall_mem_cons] at h
    have hacc : acc.reverse ++ ((name, v) :: fields).map (fun p => (p.1, inOrder p.2)) =
        ((name, v.inOrder) :: acc).reverse ++ fields.map fun p => (p.1, inOrder p.2) := by simp
    rw [hacc]
    cases fields with
    | nil =>
      rw [fieldChars, List.append_assoc, List.cons_append]
      refine (leads_name name start acc before frames _).trans ?_
      refine (h.1 _ ('\x7d' :: rest) .value (.inl rfl) (ends_cons (by decide) rest)).trans ?_
      rw [List.map_nil, List.append_nil]
      exact leads_token rfl (by decide) rfl (Nat.le_refl _) rfl
    | cons q fields =>
      rw [fieldChars, List.append_assoc, List.cons_append, List.append_assoc, List.cons_append]
      refine (leads_name name start acc before frames _).trans ?_
      refine (h.1 _ (',' :: (fieldChars (q :: fields) ++ '\x7d' :: rest)) .value (.inl rfl)
        (ends_cons (by decide) _)).trans ?_
      refine Leads.trans ?_ (ih h.2 ((name, v.inOrder) :: acc) name)
      exact leads_token rfl (by decide) rfl (Nat.le_refl _) rfl

/-- The reader gets from the start of a value to its end, whatever follows it. -/
theorem leads_of_whole {v : Json} (h : v.Whole) : Carries v := by
  -- By induction on the value: the items of an array and the values of an object are read before.
  induction h with
  | null =>
    intro frames rest expect hexpect hends
    exact leads_value hexpect (by decide) (scanToken_keyword hends).1 (by simp; omega) rfl
  | bool b =>
    intro frames rest expect hexpect hends
    cases b with
    | true =>
      exact leads_value hexpect (by decide) (scanToken_keyword hends).2.1 (by simp; omega) rfl
    | false =>
      exact leads_value hexpect (by decide) (scanToken_keyword hends).2.2 (by simp; omega) rfl
  | @int n hmin hmax =>
    intro frames rest expect hexpect hends
    obtain ⟨c, cs, hcs, hc⟩ := exists_chars_int_eq_cons n
    obtain ⟨text, hscan⟩ := scanNumber_int hmin hmax hends
    rw [hcs, List.cons_append, ← scanToken_number hc] at hscan
    rw [chars, hcs, List.cons_append]
    exact leads_value hexpect (List.mem_append_right _ hc) hscan (by simp) rfl
  | string s =>
    intro frames rest expect hexpect hends
    have hquote := scanToken_quote s rest
    simp only [chars, stringChars, List.cons_append, List.append_assoc, List.nil_append]
    exact leads_value hexpect (by decide) hquote (by simp; omega) rfl
  | @array items h ih =>
    intro frames rest expect hexpect hends
    have hitems := leads_itemChars ih ('[' :: (itemChars items ++ ']' :: rest)) [] frames rest
    rw [List.reverse_nil, List.nil_append, ← itemsInOrder_eq_map] at hitems
    simp only [chars, inOrder, List.cons_append, List.append_assoc, List.nil_append]
    exact (leads_value hexpect (by decide) rfl (Nat.le_refl _) rfl).trans hitems
  | @object fields h ih =>
    intro frames rest expect hexpect hends
    have hfields :=
      leads_fieldChars ih ('\x7b' :: (fieldChars fields ++ '\x7d' :: rest)) [] "" frames rest
    rw [List.reverse_nil, List.nil_append, ← fieldsInOrder_eq_map] at hfields
    simp only [chars, inOrder, List.cons_append, List.append_assoc, List.nil_append]
    exact (leads_value hexpect (by decide) rfl (Nat.le_refl _) rfl).trans hfields

end Reader

/-- The compact form of a value is read as the value. -/
theorem read_chars {v : Json} (h : v.Whole) : read v.chars = .ok (some v.inOrder) := by
  obtain ⟨fuel, -, hrun⟩ :=
    leads_of_whole h [] [] .value (.inl rfl) ends_nil v.chars.length (by simp)
  rw [List.append_nil] at hrun
  rw [read, scan, hrun]
  cases fuel <;> rfl

end ProseLinter.Json
