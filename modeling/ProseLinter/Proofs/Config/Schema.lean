import ProseLinter.Config.Basic
import ProseLinter.Proofs.Config.RuleOption
import ProseLinter.Proofs.Json.Ordered
import ProseLinter.Proofs.Json.Schema

/-!
# The schema of configurations

The schema, the decoder and the severities describe the same configurations. What the schema accepts
the decoder reads, field by field, and in what it reads every option means something: the rule is
off, or the severity that is written is forced on its messages.

* `ConfigOptions.IsField` : the fields that the schema accepts.
* `ConfigOptions.IsField.read` and `ConfigOptions.exists_foldlM_readField` : one of them and all of
  them are read, and the options are those written.
* `ConfigOptions.ofText_cases` : what becomes of a text.
* `ConfigOptions.schema_agrees_with_decoder` : the three descriptions agree.
-/

namespace ProseLinter

open Json

namespace Schema

/-- One of the alternatives is satisfied. -/
theorem exists_of_satisfies_oneOf {alternatives : List Schema} {v : Json}
    (h : (oneOf alternatives).Satisfies v) : ∃ s ∈ alternatives, s.Satisfies v := by
  rw [Satisfies] at h
  obtain ⟨before, s, after, rfl, hs, -⟩ := h
  exact ⟨s, List.mem_append_right before List.mem_cons_self, hs⟩

/-- An array of strings is made of a list of strings. -/
theorem exists_strings_of_satisfies {minLength : Nat} {v : Json}
    (h : (array (string minLength)).Satisfies v) : ∃ items, v = Json.strings items := by
  rw [Satisfies] at h
  obtain ⟨vs, rfl, hvs⟩ := h
  induction vs with
  | nil => exact ⟨[], rfl⟩
  | cons v vs ih =>
    rw [List.forall_mem_cons] at hvs
    obtain ⟨items, hitems⟩ := ih hvs.2
    have hv := hvs.1
    rw [Satisfies] at hv
    obtain ⟨s, rfl, -⟩ := hv
    cases hitems
    exact ⟨s :: items, rfl⟩

end Schema

namespace ConfigOptions

/-- The schema of what is said about a rule. -/
def optionSchema : Schema :=
  .oneOf [.boolean, severityChoice, .opened [("severity", severityChoice)]]

/-- A severity that the schema accepts is known or says that the rule is off. -/
theorem known_of_severityChoice {v : Json} (h : severityChoice.Satisfies v) :
    ∃ name, v = .string name ∧ (name = "off" ∨ ∃ s, (name, s) ∈ Severity.written) := by
  rw [severityChoice, Schema.Satisfies] at h
  obtain ⟨name, hname, rfl⟩ := h
  refine ⟨name, rfl, ?_⟩
  simp only [List.mem_cons, List.not_mem_nil, or_false] at hname
  rcases hname with rfl | rfl | rfl | rfl | rfl <;> simp [Severity.written]

theorem known_of_optionSchema {v written : Json} (h : optionSchema.Satisfies v)
    (hwritten : (RuleOption.ofJson v).HasSeverity written) :
    ∃ name, written = .string name ∧ (name = "off" ∨ ∃ s, (name, s) ∈ Severity.written) := by
  obtain ⟨s, hs, h⟩ := Schema.exists_of_satisfies_oneOf h
  simp only [List.mem_cons, List.not_mem_nil, or_false] at hs
  rcases hs with rfl | rfl | rfl
  · -- A boolean has no severity.
    rw [Schema.Satisfies] at h
    obtain ⟨b, rfl⟩ := h
    cases hwritten
  · obtain ⟨name, rfl, hname⟩ := known_of_severityChoice h
    cases hwritten
    exact ⟨name, rfl, hname⟩
  · rw [Schema.Satisfies] at h
    obtain ⟨fields, rfl, hfields⟩ := h
    cases hwritten with
    | options hfield =>
      obtain ⟨fields, hobject, hmem⟩ := exists_mem_of_field? hfield
      cases hobject
      exact known_of_severityChoice (hfields _ hmem severityChoice List.lookup_cons_self)

/-! ### Fields -/

/-- The fields of a configuration, as the schema accepts them. -/
inductive IsField : String → Json → Prop
  | schema (uri : String) : IsField "$schema" (.string uri)
  | strings {name : String} (hname : name ∈ ["rules", "rulePaths", "plugins", "extensions"])
      (items : List String) : IsField name (.strings items)
  | string {name : String} (hname : name ∈ ["rulesBaseDirectory", "formatterName"])
      (text : String) : IsField name (.string text)
  | options {entries : List (String × Json)} (h : ∀ p ∈ entries, optionSchema.Satisfies p.2) :
      IsField "options" (.object entries)

/-- What the schema accepts is an object of such fields. -/
theorem exists_isField_of_satisfies {v : Json} (h : schema.Satisfies v) :
    ∃ entries, v = .object entries ∧ ∀ p ∈ entries, IsField p.1 p.2 := by
  rw [schema, Schema.Satisfies] at h
  obtain ⟨entries, rfl, h⟩ := h
  refine ⟨entries, rfl, fun p hp => ?_⟩
  obtain ⟨name, w⟩ := p
  obtain ⟨s, hs, hw⟩ := h (name, w) hp
  have hstrings (hname : name ∈ ["rules", "rulePaths", "plugins", "extensions"])
      {minLength : Nat} (hw : (Schema.array (.string minLength)).Satisfies w) :
      IsField name w := by
    obtain ⟨items, rfl⟩ := Schema.exists_strings_of_satisfies hw
    exact .strings hname items
  have hstring (hname : name ∈ ["rulesBaseDirectory", "formatterName"])
      {minLength : Nat} (hw : (Schema.string minLength).Satisfies w) : IsField name w := by
    rw [Schema.Satisfies] at hw
    obtain ⟨text, rfl, -⟩ := hw
    exact .string hname text
  have hmem := Schema.mem_of_lookup_eq_some hs
  simp only [List.mem_cons, Prod.mk.injEq, List.not_mem_nil, or_false] at hmem
  -- One case for each of the names that the schema lists, in its order.
  rcases hmem with ⟨rfl, rfl⟩ | ⟨rfl, rfl⟩ | ⟨rfl, rfl⟩ | ⟨rfl, rfl⟩ | ⟨rfl, rfl⟩ | ⟨rfl, rfl⟩ |
    ⟨rfl, rfl⟩ | ⟨rfl, rfl⟩
  · rw [Schema.Satisfies] at hw
    obtain ⟨uri, rfl, -⟩ := hw
    exact .schema uri
  · exact hstrings (by simp) hw
  · exact hstrings (by simp) hw
  · exact hstrings (by simp) hw
  · exact hstring (by simp) hw
  · exact hstring (by simp) hw
  · exact hstrings (by simp) hw
  · rw [Schema.Satisfies] at hw
    obtain ⟨options, rfl, hoptions⟩ := hw
    exact .options hoptions

/-! ### Decoding -/

theorem decodeOption_strings {α : Type} {decode : Json.Decoder α} {f : String → α}
    (h : ∀ s, decode (.string s) = .ok (f s)) (items : List String) :
    decodeOption (decodeList decode) (.strings items) = .ok (some (items.map f)) := by
  have hpure : decode ∘ Json.string = fun s => pure (f s) := funext h
  change ((items.map Json.string).mapM decode).map some = _
  rw [List.mapM_map, hpure, List.mapM_pure]
  rfl

/-- The options that a value says, entry by entry. -/
def optionsIn : Json → List (String × RuleOption)
  | .object entries => entries.map fun p => (p.1, .ofJson p.2)
  | _ => []

theorem decodeOption_optionsIn (entries : List (String × Json)) :
    decodeOption (decodeMap decodeRuleOption) (.object entries) =
      .ok (some (optionsIn (.object entries))) := by
  have hpure : decodeMap decodeRuleOption (.object entries) =
      .ok (optionsIn (.object entries)) := List.mapM_pure
  change (decodeMap decodeRuleOption (.object entries)).map some = _
  rw [hpure]
  rfl

/-- Reads one field. -/
def readField (o : ConfigOptions) (p : String × Json) : Except DecodeError ConfigOptions :=
  if record.fieldNames.contains p.1 then record.set p.1 p.2 o
  else if record.closed then .error (.unknownField p.1 record.fieldNames)
  else .ok o

theorem ofFields_eq (entries : List (String × Json)) :
    record.ofFields entries = entries.foldlM readField {} := rfl

/-- One field: what the schema accepts is read or left aside, and the options are those written. -/
theorem IsField.read {name : String} {v : Json} (h : IsField name v) (o : ConfigOptions) :
    ∃ o', o.readField (name, v) = .ok o' ∧
      o'.options = if name = "options" then some (optionsIn v) else o.options := by
  cases h with
  | schema uri => exact ⟨o, rfl, rfl⟩
  | strings hname items =>
    have hstring (s : String) : decodeString (.string s) = .ok (id s) := rfl
    have hpath (s : String) : decodePath (.string s) = .ok ⟨s⟩ := rfl
    have hstrings : record.strings (.strings items) = .ok (some (items.map id)) :=
      decodeOption_strings hstring items
    have hpaths := decodeOption_strings hpath items
    simp only [List.mem_cons, List.not_mem_nil, or_false] at hname
    rcases hname with rfl | rfl | rfl | rfl
    · exact ⟨{ o with rules := some (items.map id) }, by simp [readField, record, hstrings], rfl⟩
    · exact ⟨{ o with rulePaths := some (items.map fun s => ⟨s⟩) },
        by simp [readField, record, hpaths], rfl⟩
    · exact ⟨{ o with plugins := some (items.map id) }, by simp [readField, record, hstrings], rfl⟩
    · exact ⟨{ o with extensions := some (items.map id) },
        by simp [readField, record, hstrings], rfl⟩
  | string hname text =>
    simp only [List.mem_cons, List.not_mem_nil, or_false] at hname
    rcases hname with rfl | rfl
    · exact ⟨{ o with rulesBaseDirectory := some ⟨text⟩ }, rfl, rfl⟩
    · exact ⟨{ o with formatterName := some text }, rfl, rfl⟩
  | @options entries h =>
    have hoptions := decodeOption_optionsIn entries
    exact ⟨{ o with options := some (optionsIn (.object entries)) },
      by simp [readField, record, hoptions], rfl⟩

/-- All fields, one after the other: the options are those written, if any are. -/
theorem exists_foldlM_readField {entries : List (String × Json)}
    (h : ∀ p ∈ entries, IsField p.1 p.2) (hnames : entries.Pairwise (·.1 ≠ ·.1))
    (o : ConfigOptions) :
    ∃ o', entries.foldlM readField o = .ok o' ∧
      o'.options = (((Json.object entries).field? "options").map optionsIn).or o.options := by
  -- By induction on the fields; `o` is what those before them came to.
  induction entries generalizing o with
  | nil => exact ⟨o, rfl, rfl⟩
  | cons p entries ih =>
    obtain ⟨name, v⟩ := p
    rw [List.forall_mem_cons] at h
    rw [List.pairwise_cons] at hnames
    obtain ⟨o₁, hread, ho₁⟩ := h.1.read o
    obtain ⟨o₂, hrest, ho₂⟩ := ih h.2 hnames.2 o₁
    refine ⟨o₂, ?_, ?_⟩
    · rw [List.foldlM_cons, hread]
      exact hrest
    rw [ho₂, ho₁]
    by_cases hname : name = "options"
    · subst hname
      -- The name is not repeated, so nothing that follows replaces the options.
      have hnone : (Json.object entries).field? "options" = none :=
        field?_eq_none fun q hq => (hnames.1 q hq).symm
      simp [hnone]
    · rw [field?_cons_of_ne hname, if_neg hname]

/-- What the schema accepts is read, and the options are those written. -/
theorem exists_decode_eq_ok {v : Json} (h : schema.Satisfies v) (hv : v.Ordered) :
    ∃ o, decode v = .ok o ∧ o.options = (v.field? "options").map optionsIn := by
  obtain ⟨entries, rfl, hfields⟩ := exists_isField_of_satisfies h
  obtain ⟨o, hread, ho⟩ := exists_foldlM_readField hfields hv.pairwise {}
  refine ⟨o, ?_, by simpa using ho⟩
  -- No field is required, so nothing is left to check.
  change (record.ofFields entries >>= fun o => .ok o) = _
  rw [ofFields_eq, hread]
  rfl

/-- All options of an accepted configuration satisfy the schema of options. -/
theorem exists_of_mem_optionsIn {v w : Json} (h : schema.Satisfies v)
    (hw : v.field? "options" = some w) {p : String × RuleOption} (hp : p ∈ optionsIn w) :
    ∃ written, optionSchema.Satisfies written ∧ p.2 = .ofJson written := by
  obtain ⟨entries, rfl, hfields⟩ := exists_isField_of_satisfies h
  obtain ⟨entries', hobject, hmem⟩ := exists_mem_of_field? hw
  cases hobject
  -- Of the four kinds of fields only the last has this name.
  generalize hname : "options" = name at hmem
  cases hfields _ hmem with
  | options hoptions =>
    obtain ⟨q, hq, rfl⟩ := List.mem_map.1 hp
    exact ⟨q.2, hoptions q hq, rfl⟩
  | _ => cases hp

/-! ### Texts -/

/-- A text that holds no value stands for an empty object. -/
theorem ordered_getD_of_read {text : List Char} {v? : Option Json} (h : Json.read text = .ok v?) :
    (v?.getD (.object [])).Ordered := by
  cases v? with
  | none => exact .object List.Pairwise.nil (List.forall_mem_nil _)
  | some v => exact ordered_of_read h

/-- What becomes of a text: it cannot be read, its value does not satisfy the schema, or it is
accepted with the options that are written. -/
theorem ofText_cases (text : String) :
    (∃ fault, Json.read text.toList = .error fault ∧
      ofText text = .error (.notJson text.toList fault)) ∨
    ∃ v?, Json.read text.toList = .ok v? ∧
      ((¬ schema.Satisfies (v?.getD (.object [])) ∧
          ∃ violation, ofText text = .error (.violation violation)) ∨
        schema.Satisfies (v?.getD (.object [])) ∧
          ∃ o, ofText text = .ok o ∧
            o.options = ((v?.getD (.object [])).field? "options").map optionsIn) := by
  cases hread : Json.read text.toList with
  | error fault =>
    refine .inl ⟨fault, rfl, ?_⟩
    rw [ofText, hread]
    rfl
  | ok v? =>
    refine .inr ⟨v?, rfl, ?_⟩
    have hordered := ordered_getD_of_read hread
    -- Validation and the meaning of the schema agree on the value.
    cases hviolation : schema.violation? (v?.getD (.object [])) with
    | some violation =>
      refine .inl ⟨fun hsatisfies => ?_, violation, ?_⟩
      · rw [(Schema.violation?_eq_none_iff _ _).2 hsatisfies] at hviolation
        cases hviolation
      · simp only [ofText, hread, Except.mapError, bind, Except.bind, hviolation]
        rfl
    | none =>
      have hsatisfies := (Schema.violation?_eq_none_iff _ _).1 hviolation
      obtain ⟨o, hdecode, ho⟩ := exists_decode_eq_ok hsatisfies hordered
      refine .inr ⟨hsatisfies, o, ?_, ho⟩
      simp only [ofText, hread, Except.mapError, bind, Except.bind, hviolation, hdecode]

/-- The schema, the decoder and the severities agree on every text. A text is accepted exactly if
it can be read and its value satisfies the schema; the decoder refuses nothing that the schema has
let through. The options of an accepted configuration are those that are written, in the same
order, and each means something: its rule is off exactly if the option switches it off, and
otherwise a severity is forced on its messages exactly if one is written. -/
theorem schema_agrees_with_decoder (text : String) :
    ((∃ o, ofText text = .ok o) ↔
      ∃ v?, Json.read text.toList = .ok v? ∧ schema.Satisfies (v?.getD (.object []))) ∧
    (∀ error, ofText text ≠ .error (.undecodable error)) ∧
    ∀ o, ofText text = .ok o →
      ∃ v?, Json.read text.toList = .ok v? ∧
        o.options = ((v?.getD (.object [])).field? "options").map optionsIn ∧
        ∀ p ∈ o.options.getD [],
          (p.2.isEnabled = false ↔ p.2.SwitchesOff) ∧
          (p.2.isEnabled = true →
            (p.2.forced.isSome = true ↔ ∃ severity, p.2.HasSeverity severity)) := by
  obtain ⟨fault, hread, hof⟩ | ⟨v?, hread, ⟨hnot, violation, hof⟩ | ⟨h, o, hof, ho⟩⟩ :=
    ofText_cases text
  · simp [hof, hread]
  · simp [hof, hread, hnot]
  · refine ⟨⟨fun _ => ⟨v?, hread, h⟩, fun _ => ⟨o, hof⟩⟩, by simp [hof], fun o' ho' => ?_⟩
    obtain rfl : o = o' := by simpa [hof] using ho'
    refine ⟨v?, hread, ho, fun p hp => ⟨RuleOption.isEnabled_eq_false_iff, fun hon => ?_⟩⟩
    -- The option is one that the schema accepts, so a severity in it is known.
    rw [ho] at hp
    cases hw : (v?.getD (.object [])).field? "options" with
    | none => simp [hw] at hp
    | some w =>
      rw [hw, Option.map_some, Option.getD_some] at hp
      obtain ⟨written, hwritten, hpw⟩ := exists_of_mem_optionsIn h hw hp
      rw [hpw] at hon ⊢
      exact RuleOption.isSome_forced_iff (fun _ => known_of_optionSchema hwritten) hon

/-- The short name of a severity is accepted, and the severity is forced. -/
theorem schema_agrees_with_decoder_warn :
    ∃ o, ofText "\x7b\"options\": \x7b\"r\": \"warn\"\x7d\x7d" = .ok o ∧
      o.options = some [("r", .severity "warn")] ∧
      (RuleOption.severity "warn").forced.isSome = true := by
  have hread : Json.read "\x7b\"options\": \x7b\"r\": \"warn\"\x7d\x7d".toList =
      .ok (some (.object [("options", .object [("r", .string "warn")])])) := rfl
  obtain ⟨haccepted, -, hsettled⟩ :=
    schema_agrees_with_decoder "\x7b\"options\": \x7b\"r\": \"warn\"\x7d\x7d"
  obtain ⟨o, ho⟩ := haccepted.2 ⟨_, hread, (Schema.violation?_eq_none_iff _ _).1 rfl⟩
  obtain ⟨v?, hv, hoptions, hmeans⟩ := hsettled o ho
  -- The text was read once before, so this is the same value.
  rw [hread] at hv
  cases hv
  have hsome : o.options = some [("r", .severity "warn")] := hoptions
  obtain ⟨-, hforced⟩ := hmeans ("r", .severity "warn") (by simp [hsome])
  exact ⟨o, ho, hsome, (hforced rfl).2 ⟨_, .severity "warn"⟩⟩

end ConfigOptions

end ProseLinter
