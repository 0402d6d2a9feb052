import ProseLinter.Json.Decode
import ProseLinter.Proofs.Outcome
import ProseLinter.Proofs.Text.Lines

/-!
# Complaints of decoders

What a decoder says of a value that it refuses stands on one line, whatever the value is: a text is
quoted, and of an array or object only the kind is named. Only the names of fields and variants that
are not known are taken over as they are.

* `Json.OnOneLine` : all that a decoder says stands on one line.
* `Json.Record.onOneLine_decode` : it is so for a record if it is so for its fields.
-/

namespace ProseLinter

open Text

/-- A double is written on one line. -/
theorem Number.newline_not_mem_realChars (x : Float) : '\n' ∉ Number.realChars x := by
  unfold realChars
  extract_lets sign d digits count point mark exponent
  have hsign : '\n' ∉ sign := by
    simp only [sign]
    split <;> simp
  have hdigits : '\n' ∉ digits := newline_not_mem_toDigits (by decide) _
  have htake (k : Nat) : '\n' ∉ digits.take k := fun h => hdigits (List.mem_of_mem_take h)
  have hdrop (k : Nat) : '\n' ∉ digits.drop k := fun h => hdigits (List.mem_of_mem_drop h)
  have htail : '\n' ∉ digits.tail := fun h => hdigits (List.mem_of_mem_tail h)
  have hmark : '\n' ∉ mark := by
    simp only [mark]
    split <;> simp
  have hexponent : '\n' ∉ exponent := newline_not_mem_toDigits (by decide) _
  rw [List.mem_append, not_or]
  refine ⟨hsign, ?_⟩
  -- The text consists of digits of the number, digits of the exponent, zeros and marks.
  repeat' split
  all_goals simp [hdigits, htake, hdrop, htail, hmark, hexponent]

/-- Of a text the quoted form is named, and of what holds other values only the kind. -/
theorem DecodeError.oneLine_describe (v : Json) : OneLine (describe v) := by
  cases v with
  | null => decide
  | bool b => cases b <;> decide
  | number n =>
    cases n with
    | int n =>
      change OneLine ("integer `" ++ toString n ++ "`")
      simp only [oneLine_append]
      exact ⟨⟨by decide, oneLine_toString_int n⟩, by decide⟩
    | real x =>
      change OneLine ("floating point `" ++ String.ofList (Number.realChars x) ++ "`")
      simp only [oneLine_append, oneLine_ofList]
      exact ⟨⟨by decide, Number.newline_not_mem_realChars x⟩, by decide⟩
  | string s =>
    change OneLine ("string " ++ quoted s)
    exact (oneLine_append _ _).2 ⟨by decide, oneLine_quoted s⟩
  | array items => exact (by decide : OneLine "sequence")
  | object fields => exact (by decide : OneLine "map")

namespace Json

variable {α : Type}

/-- What the decoder says of a value that it refuses stands on one line. -/
def OnOneLine (decode : Decoder α) : Prop :=
  ∀ v e, decode v = .error e → OneLine e.message

theorem oneLine_invalidType (v : Json) {expected : String} (h : OneLine expected) :
    OneLine (DecodeError.invalidType v expected).message := by
  change OneLine ("invalid type: " ++ DecodeError.describe v ++ ", expected " ++ expected)
  simp only [oneLine_append]
  exact ⟨⟨⟨by decide, DecodeError.oneLine_describe v⟩, by decide⟩, h⟩

theorem oneLine_invalidLength (n : Nat) {expected : String} (h : OneLine expected) :
    OneLine (DecodeError.invalidLength n expected).message := by
  change OneLine ("invalid length " ++ toString n ++ ", expected " ++ expected)
  simp only [oneLine_append]
  exact ⟨⟨⟨by decide, oneLine_toString n⟩, by decide⟩, h⟩

theorem onOneLine_decodeString : OnOneLine decodeString := by
  intro v e h
  cases v with
  | string s => cases h
  | _ =>
    cases h
    exact oneLine_invalidType _ (by decide)

theorem onOneLine_decodeBool : OnOneLine decodeBool := by
  intro v e h
  cases v with
  | bool b => cases h
  | _ =>
    cases h
    exact oneLine_invalidType _ (by decide)

theorem onOneLine_decodeNat (bits : Nat) {expected : String} (hexpected : OneLine expected) :
    OnOneLine (decodeNat bits expected) := by
  intro v e h
  unfold decodeNat at h
  split at h
  · next n =>
    split at h
    · cases h
    · cases h
      change OneLine ("invalid value: integer `" ++ toString n ++ "`, expected " ++ expected)
      simp only [oneLine_append]
      exact ⟨⟨⟨by decide, oneLine_toString_int n⟩, by decide⟩, hexpected⟩
  · cases h
    exact oneLine_invalidType _ hexpected

theorem onOneLine_decodeList {decode : Decoder α} (hdecode : OnOneLine decode) :
    OnOneLine (decodeList decode) := by
  intro v e h
  cases v with
  | array items =>
    obtain ⟨item, -, hitem⟩ := exists_eq_error_of_mapM h
    exact hdecode item e hitem
  | _ =>
    cases h
    exact oneLine_invalidType _ (by decide)

/-- A field that is read by a decoder is refused for what the decoder says of it. -/
theorem OnOneLine.of_field {σ : Type} {decode : Decoder α} (h : OnOneLine decode) {put : α → σ}
    {v : Json} {e : DecodeError} (hread : (decode v >>= fun a => pure (put a)) = .error e) :
    OneLine e.message := by
  rcases eq_error_or_of_bind_eq_error hread with hread | ⟨_, -, hread⟩
  · exact h v e hread
  · cases hread

/-- What a record says stands on one line if what it says of its fields does, and it passes over
fields that it does not know. -/
theorem Record.onOneLine_decode {σ : Type} {r : Record σ}
    {finish : Shape → σ → Except DecodeError α}
    (hname : OneLine r.name) (hopen : r.closed = false)
    (hset : ∀ name v acc e, r.set name v acc = .error e → OneLine e.message)
    (hfinish : ∀ shape acc e, finish shape acc = .error e → OneLine e.message) :
    OnOneLine (r.decode finish) := by
  have hother (v : Json) : OneLine (DecodeError.invalidType v ("struct " ++ r.name)).message :=
    oneLine_invalidType v ((oneLine_append _ _).2 ⟨by decide, hname⟩)
  intro v e h
  cases v with
  | object fields =>
    rcases eq_error_or_of_bind_eq_error h with h | ⟨acc, -, h⟩
    · obtain ⟨acc, ⟨name, v⟩, -, h⟩ := exists_eq_error_of_foldlM h
      simp only [hopen] at h
      split at h
      · exact hset name v acc e h
      · cases h
    · exact hfinish _ acc e h
  | array items =>
    rcases eq_error_or_of_bind_eq_error h with h | ⟨acc, -, h⟩
    · obtain ⟨acc, ⟨name, v⟩, -, h⟩ := exists_eq_error_of_foldlM h
      exact hset name v acc e h
    · rcases eq_error_or_of_bind_eq_error h with h | ⟨a, -, h⟩
      · exact hfinish _ acc e h
      · split at h
        · cases h
          exact oneLine_invalidLength _ (by decide)
        · cases h
  | _ =>
    cases h
    exact hother _

end Json

end ProseLinter
