import Mathlib.Data.List.Basic
import ProseLinter.Json.Reader
import ProseLinter.Proofs.Outcome

/-!
# Values with ordered fields

Objects list their fields in increasing order of names, each name once, however a text orders and
repeats them: of two fields of one name the last counts. So a field of a value that was read is the
only one of its name.

* `Json.insertField_pairwise` : adding a field keeps the fields in order.
* `Json.Ordered` : all objects in a value are in order.
* `Json.Reader.Ordered.step` : the reader keeps to such values, token by token.
* `Json.ordered_of_read` : every value that is read is ordered.
-/

namespace ProseLinter.Json

/-! ### Fields -/

@[simp]
theorem field?_cons_self (name : String) (v : Json) (fields : List (String × Json)) :
    (Json.object ((name, v) :: fields)).field? name = some v := by
  simp [field?]

theorem field?_cons_of_ne {name other : String} (h : other ≠ name) (v : Json)
    (fields : List (String × Json)) :
    (Json.object ((other, v) :: fields)).field? name = (Json.object fields).field? name := by
  simp [field?, h]

theorem field?_eq_none {name : String} {fields : List (String × Json)}
    (h : ∀ p ∈ fields, p.1 ≠ name) : (Json.object fields).field? name = none := by
  simpa [field?] using h

theorem filter_ne_eq_self {name : String} {fields : List (String × Json)}
    (h : ∀ p ∈ fields, p.1 ≠ name) : fields.filter (·.1 != name) = fields := by
  apply List.filter_eq_self.2
  intro p hp
  simpa using h p hp

/-- A field that is found is one of those of an object. -/
theorem exists_mem_of_field? {name : String} {v w : Json} (h : v.field? name = some w) :
    ∃ fields, v = .object fields ∧ (name, w) ∈ fields := by
  cases v with
  | object fields =>
    obtain ⟨p, hp, rfl⟩ := Option.map_eq_some_iff.1 h
    obtain rfl : p.1 = name := by simpa using List.find?_some hp
    exact ⟨fields, rfl, List.mem_of_find?_eq_some hp⟩
  | _ => cases h

/-! ### Adding a field -/

/-- A field that was inserted is found. -/
theorem field?_insertField (name : String) (value : Json) {fields : List (String × Json)}
    (h : ∀ p ∈ fields, p.1 ≠ name) :
    (Json.object (insertField name value fields)).field? name = some value := by
  induction fields with
  | nil => simp [field?, insertField]
  | cons p fields ih =>
    obtain ⟨n, v⟩ := p
    rw [List.forall_mem_cons] at h
    have hrest := ih h.2
    rw [insertField]
    -- The new field stands in front of this one or behind it, which has another name.
    split
    · exact field?_cons_self name value _
    · split
      · exact field?_cons_self name value _
      · rw [field?_cons_of_ne h.1, hrest]

/-- Without the field that was inserted the others are left. -/
theorem filter_insertField (name : String) (value : Json) {fields : List (String × Json)}
    (h : ∀ p ∈ fields, p.1 ≠ name) :
    (insertField name value fields).filter (·.1 != name) = fields := by
  induction fields with
  | nil => simp [insertField]
  | cons p fields ih =>
    obtain ⟨n, v⟩ := p
    have hn : n ≠ name := h (n, v) List.mem_cons_self
    have hrest : ∀ p ∈ fields, p.1 ≠ name := fun p hp => h p (List.mem_cons_of_mem _ hp)
    rw [insertField]
    split
    · simp [hn, filter_ne_eq_self hrest]
    · split
      · next heq => exact absurd (eq_of_beq heq).symm hn
      · simp [hn, ih hrest]

/-- The fields are the new one and some of the others. -/
theorem mem_insertField {name : String} {value : Json} {fields : List (String × Json)}
    {p : String × Json} (h : p ∈ insertField name value fields) :
    p = (name, value) ∨ p ∈ fields := by
  induction fields with
  | nil => exact .inl (List.mem_singleton.1 h)
  | cons q fields ih =>
    obtain ⟨n, v⟩ := q
    rw [insertField] at h
    split at h
    · exact List.mem_cons.1 h
    · split at h
      · exact (List.mem_cons.1 h).imp_right (List.mem_cons_of_mem _)
      · rcases List.mem_cons.1 h with rfl | h
        · exact .inr List.mem_cons_self
        · exact (ih h).imp_right (List.mem_cons_of_mem _)

/-- Fields in increasing order stay so. -/
theorem insertField_pairwise (name : String) (value : Json) {fields : List (String × Json)}
    (h : fields.Pairwise (·.1 < ·.1)) :
    (insertField name value fields).Pairwise (·.1 < ·.1) := by
  induction fields with
  | nil => exact List.pairwise_singleton _ _
  | cons p fields ih =>
    obtain ⟨n, v⟩ := p
    obtain ⟨hn, hfields⟩ := List.pairwise_cons.1 h
    rw [insertField]
    split
    · next hlt =>
      -- The new name is before the first one and so before all.
      refine List.pairwise_cons.2 ⟨fun q hq => ?_, h⟩
      rcases List.mem_cons.1 hq with rfl | hq
      · exact hlt
      · exact String.lt_trans hlt (hn q hq)
    · next hlt =>
      split
      · next heq =>
        obtain rfl : name = n := eq_of_beq heq
        exact List.pairwise_cons.2 ⟨hn, hfields⟩
      · next hne =>
        have hbehind : n < name := by
          by_contra hle
          apply hne
          rw [String.le_antisymm (String.not_lt.1 hle) (String.not_lt.1 hlt), beq_self_eq_true]
        refine List.pairwise_cons.2 ⟨fun q hq => ?_, ih hfields⟩
        rcases mem_insertField hq with rfl | hq
        · exact hbehind
        · exact hn q hq

/-! ### Ordered values -/

/-- All objects in the value list their fields in increasing order of names, each name once. -/
inductive Ordered : Json → Prop
  | null : Ordered .null
  | bool (b : Bool) : Ordered (.bool b)
  | number (n : Number) : Ordered (.number n)
  | string (s : String) : Ordered (.string s)
  | array {items : List Json} (h : ∀ v ∈ items, Ordered v) : Ordered (.array items)
  | object {fields : List (String × Json)} (hpairwise : fields.Pairwise (·.1 < ·.1))
      (h : ∀ p ∈ fields, Ordered p.2) : Ordered (.object fields)

/-- The fields of an ordered object have different names. -/
theorem Ordered.pairwise {fields : List (String × Json)} (h : (Json.object fields).Ordered) :
    fields.Pairwise (·.1 ≠ ·.1) := by
  cases h with
  | object hpairwise h => exact hpairwise.imp String.ne_of_lt

/-- An object that is built from fields in any order is ordered. -/
theorem ordered_ofFields {fields : List (String × Json)} (h : ∀ p ∈ fields, p.2.Ordered) :
    (ofFields fields).Ordered := by
  -- The fields that are inserted one by one stay in order, and their values are the given ones.
  have hfold (acc : List (String × Json)) (hpairwise : acc.Pairwise (·.1 < ·.1))
      (hacc : ∀ p ∈ acc, p.2.Ordered) :
      (Json.object (fields.foldl (fun acc f => insertField f.1 f.2 acc) acc)).Ordered := by
    induction fields generalizing acc with
    | nil => exact .object hpairwise hacc
    | cons p fields ih =>
      rw [List.forall_mem_cons] at h
      rw [List.foldl_cons]
      refine ih h.2 _ (insertField_pairwise p.1 p.2 hpairwise) fun q hq => ?_
      rcases mem_insertField hq with rfl | hq
      · exact h.1
      · exact hacc q hq
  rw [ofFields]
  apply hfold
  · exact List.Pairwise.nil
  · simp

/-! ### Tokens -/

/-- The value that a token carries is ordered. -/
def Token.Ordered (token : Token) : Prop :=
  ∀ text v, token = .number text v → v.Ordered

/-- All tokens of a text carry ordered values. -/
inductive Scan.Ordered : Scan → Prop
  | done : Scan.Ordered .done
  | fault (fault : Fault) : Scan.Ordered (.fault fault)
  | token {token : Token} (start : List Char) {next : Scan} (h : token.Ordered)
      (hnext : next.Ordered) : Scan.Ordered (.token token start next)

theorem ordered_hexLiteral (text : String) (negative : Bool) (digits : List Char) :
    (hexLiteral text negative digits).Ordered := by
  rw [hexLiteral]
  split
  · split
    · exact .number _
    · exact .string text
  · exact .string text

theorem ordered_decimalLiteral (text : String) (negative : Bool) (whole : List Char)
    (fraction? : Option (List Char)) (exponent? : Option (List Char × List Char × List Char)) :
    (decimalLiteral text negative whole fraction? exponent?).Ordered := by
  rw [decimalLiteral]
  split
  · exact .number _
  · exact .string text

theorem Token.ordered_number {v : Json} (h : v.Ordered) (text : String) :
    (Token.number text v).Ordered := by
  rintro text' v' heq
  cases heq
  exact h

/-- A literal stands for a number or for a string. -/
theorem ordered_of_scanUnsigned {sign cs : List Char} {p : Token × List Char}
    (h : scanUnsigned sign cs = .ok p) : p.1.Ordered := by
  unfold scanUnsigned at h
  extract_lets negative decimal at h
  -- A decimal literal may begin with a zero or not, so this is needed three times.
  have hdecimal {whole cs : List Char} (h : decimal whole cs = .ok p) : p.1.Ordered := by
    obtain ⟨⟨fraction?, afterFraction⟩, -, h⟩ := exists_of_bind_eq_ok h
    obtain ⟨⟨exponent?, afterExponent⟩, -, h⟩ := exists_of_bind_eq_ok h
    cases h
    exact Token.ordered_number (ordered_decimalLiteral _ _ _ _ _) _
  split at h
  · split at h
    · split at h
      · split at h
        · cases h
          exact Token.ordered_number (ordered_hexLiteral _ _ _) _
        · cases h
      · cases h
    · exact hdecimal h
  · exact hdecimal h
  · obtain ⟨⟨whole, rest⟩, -, h⟩ := exists_of_bind_eq_ok h
    exact hdecimal h

theorem ordered_of_scanNumber {cs : List Char} {p : Token × List Char}
    (h : scanNumber cs = .ok p) : p.1.Ordered := by
  unfold scanNumber at h
  split at h
  · split at h
    · exact ordered_of_scanUnsigned h
    · exact ordered_of_scanUnsigned h
  · exact ordered_of_scanUnsigned h

/-- Only where a number begins is a number read. -/
theorem scanNumber_of_scanToken {c : Char} {cs rest : List Char} {text : String} {v : Json}
    (h : scanToken c cs = .ok (.number text v, rest)) :
    scanNumber (c :: cs) = .ok (.number text v, rest) := by
  rw [scanToken] at h
  repeat' split at h
  -- Signs and keywords are tokens of another kind, and so are strings and words.
  any_goals cases h
  · obtain ⟨p, -, heq⟩ := exists_of_map_eq_ok h
    cases heq
  · exact h
  · rw [scanWord] at h
    split at h
    · cases h
    · cases h

theorem ordered_of_scanToken {c : Char} {cs : List Char} {p : Token × List Char}
    (h : scanToken c cs = .ok p) : p.1.Ordered := by
  obtain ⟨token, rest⟩ := p
  -- Only a number carries a value.
  rintro text v rfl
  exact ordered_of_scanNumber (scanNumber_of_scanToken h) text v rfl

/-- The tokens of a text carry ordered values. -/
theorem ordered_scanFrom (fuel : Nat) (cs : List Char) : (scanFrom fuel cs).Ordered := by
  -- By induction on the scan: blanks and comments are passed over, and a fault ends it.
  fun_induction scanFrom fuel cs with
  | case1 cs => exact .done
  | case2 fuel _ => exact .done
  | case3 fuel c cs hblank ih => exact ih
  | case4 fuel rest hblank ih => exact ih
  | case5 fuel rest after hblock hblank ih => exact ih
  | case6 fuel rest hblock hblank => exact .fault _
  | case7 fuel rest hline hblock hblank => exact .fault _
  | case8 fuel c cs hline hblock hslash token rest htoken hblank ih =>
    exact .token _ (ordered_of_scanToken htoken) ih
  | case9 fuel c cs hline hblock hslash fault htoken hblank => exact .fault _

/-! ### The reader -/

/-- What an open array or object holds so far is ordered. -/
inductive Frame.Ordered : Frame → Prop
  | array (start : List Char) {items : List Json} (h : ∀ v ∈ items, v.Ordered) :
      Frame.Ordered (.array start items)
  | object (start : List Char) {fields : List (String × Json)} (h : ∀ p ∈ fields, p.2.Ordered)
      (name : String) : Frame.Ordered (.object start fields name)

namespace Reader

/-- All values that the reader holds are ordered. -/
structure Ordered (r : Reader) : Prop where
  stop : ∀ v, r.expect = .stop v → v.Ordered
  frames : ∀ f ∈ r.frames, f.Ordered

variable {frames : List Frame} {token : Token} {start : List Char} {r r' : Reader} {v : Json}

/-- Unless it has read the whole text, the reader holds only what is open. -/
theorem Ordered.of_frames {expect : Expect} (hexpect : ∀ v, expect ≠ .stop v)
    (hframes : ∀ f ∈ frames, f.Ordered) : Reader.Ordered ⟨expect, frames⟩ :=
  ⟨fun v hv => absurd hv (hexpect v), hframes⟩

theorem Ordered.close (hframes : ∀ f ∈ frames, f.Ordered) (hv : v.Ordered) :
    (close frames v).Ordered := by
  cases frames with
  | nil =>
    refine ⟨fun w hw => ?_, hframes⟩
    cases hw
    exact hv
  | cons frame outer =>
    rw [List.forall_mem_cons] at hframes
    obtain ⟨hframe, houter⟩ := hframes
    cases hframe with
    | array start h =>
      have hframe := Frame.Ordered.array start (List.forall_mem_cons.2 ⟨hv, h⟩)
      exact .of_frames (by simp) (List.forall_mem_cons.2 ⟨hframe, houter⟩)
    | @object start fields h name =>
      have hfields : ∀ p ∈ (name, v) :: fields, p.2.Ordered := List.forall_mem_cons.2 ⟨hv, h⟩
      have hframe := Frame.Ordered.object start hfields name
      exact .of_frames (by simp) (List.forall_mem_cons.2 ⟨hframe, houter⟩)

theorem Ordered.value (hframes : ∀ f ∈ frames, f.Ordered) (htoken : token.Ordered)
    (h : value frames token start = .ok r) : r.Ordered := by
  cases token with
  | openBrace =>
    cases h
    have hframe := Frame.Ordered.object start (List.forall_mem_nil _) ""
    exact .of_frames (by simp) (List.forall_mem_cons.2 ⟨hframe, hframes⟩)
  | openBracket =>
    cases h
    have hframe := Frame.Ordered.array start (List.forall_mem_nil _)
    exact .of_frames (by simp) (List.forall_mem_cons.2 ⟨hframe, hframes⟩)
  | string s =>
    cases h
    exact .close hframes (.string s)
  | number text v =>
    cases h
    exact .close hframes (htoken text v rfl)
  | bool b =>
    cases h
    exact .close hframes (.bool b)
  | null =>
    cases h
    exact .close hframes .null
  | closeBrace | closeBracket | comma | colon | word => cases h

theorem Ordered.item (hframes : ∀ f ∈ frames, f.Ordered) (htoken : token.Ordered)
    (h : item frames token start = .ok r) : r.Ordered := by
  unfold Reader.item at h
  split at h
  · -- The array is complete.
    rw [List.forall_mem_cons] at hframes
    cases hframes.1 with
    | array _ hitems =>
      cases h
      refine .close hframes.2 (.array fun v hv => ?_)
      exact hitems v (List.mem_reverse.1 hv)
  · exact .value hframes htoken h

theorem Ordered.name (hframes : ∀ f ∈ frames, f.Ordered)
    (h : name frames token start = .ok r) : r.Ordered := by
  unfold Reader.name at h
  split at h
  · next opening fields before outer =>
    rw [List.forall_mem_cons] at hframes
    obtain ⟨hframe, houter⟩ := hframes
    have hfields : ∀ p ∈ fields, p.2.Ordered := by
      cases hframe with
      | object _ hfields _ => exact hfields
    -- The object is complete, or it stays open and gets the name of its next field.
    have hnamed (s : String) :
        Reader.Ordered ⟨.colon, .object opening fields s :: outer⟩ :=
      .of_frames (by simp) (List.forall_mem_cons.2 ⟨.object opening hfields s, houter⟩)
    split at h
    · cases h
      refine .close houter (ordered_ofFields fun p hp => ?_)
      exact hfields p (List.mem_reverse.1 hp)
    · cases h
      exact hnamed _
    · cases h
      exact hnamed _
    · cases h
      exact hnamed _
    · cases h
  · cases h

/-- One token more: the reader keeps to ordered values. -/
theorem Ordered.step (hr : r.Ordered) (htoken : token.Ordered)
    (h : r.step token start = .ok r') : r'.Ordered := by
  unfold Reader.step at h
  split at h
  · exact .value hr.frames htoken h
  · exact .item hr.frames htoken h
  · split at h
    · cases h
      exact .of_frames (by simp) hr.frames
    · exact .item hr.frames htoken h
  · exact .name hr.frames h
  · split at h
    · cases h
      exact .of_frames (by simp) hr.frames
    · exact .name hr.frames h
  · split at h
    · cases h
      exact .of_frames (by simp) hr.frames
    · cases h
  · cases h

/-- A whole text: a value that the reader ends with is ordered. -/
theorem Ordered.run (hr : r.Ordered) {tokens : Scan} (htokens : tokens.Ordered)
    (h : r.run tokens = .ok (some v)) : v.Ordered := by
  induction htokens generalizing r with
  | done =>
    rw [Reader.run, Reader.finish] at h
    -- There is a value only if the whole text was read.
    split at h
    · next hstop =>
      cases h
      exact hr.stop _ hstop
    all_goals cases h
  | fault fault => cases h
  | token start htoken hnext ih =>
    rw [Reader.run] at h
    split at h
    · next hstep => exact ih (hr.step htoken hstep) h
    · cases h

end Reader

/-- Every value that is read is ordered. -/
theorem ordered_of_read {text : List Char} {v : Json} (h : read text = .ok (some v)) :
    v.Ordered := by
  have hstart : Reader.Ordered ⟨.value, []⟩ := .of_frames (by simp) (List.forall_mem_nil _)
  exact hstart.run (ordered_scanFrom text.length text) h

end ProseLinter.Json
