import ProseLinter.Proofs.Json.Lenient
import ProseLinter.Proofs.Json.Strict
import ProseLinter.Report.Formatter

/-!
# The JSON report keeps the results

The JSON report holds all that there is to the results: read as JSON and decoded, it gives them
back. This holds of a reader of strict JSON and of the lenient reader that the program has for its
own files, whatever characters the texts hold.

* `FileResult.decode_toJson` : the JSON form of a result is decoded as the result.
* `Formatter.inOrder_resultJson` : a report writes the JSON form of a result, in another order.
* `Formatter.json_report_read_back` : reports are read back, and so are different for different
  results.
-/

namespace ProseLinter

/-! ### Decoding -/

/-- The places that a message names have 32 bits. -/
structure Message.Fits (m : Message) : Prop where
  line_lt : m.line < Span.limit
  column_lt : m.column < Span.limit
  start_lt : m.span.start < Span.limit
  stop_lt : m.span.stop < Span.limit

/-- All messages of a result fit. -/
def FileResult.Fits (r : FileResult) : Prop :=
  ∀ m ∈ r.messages, m.Fits

theorem Json.decodeNat_ofNat {n : Nat} (h : n < Span.limit) :
    Json.decodeNat 32 "u32" (.ofNat n) = .ok n := by
  have hn : (n : Int) < Nat.pow 2 32 := Int.ofNat_lt.2 h
  rw [ofNat, decodeNat, decide_eq_true hn, decide_eq_true (Int.natCast_nonneg n)]
  rfl

theorem Severity.decode_toJson (s : Severity) : Severity.decode s.toJson = .ok s := by
  cases s <;> rfl

/-- A field that is read by one decoder: what the decoder gives is put into the record. -/
theorem Json.Record.set_eq_ok {σ α : Type} (r : Json.Record σ) (name : String) (acc : σ) {v : Json}
    {decode : Json.Decoder α} {put : α → σ} {a : α} (hdecode : decode v = .ok a)
    (hset : r.set name v acc = decode v >>= fun a => pure (put a)) :
    r.set name v acc = .ok (put a) := by
  rw [hset, hdecode]
  rfl

/-- The JSON form of a span is decoded as the span. -/
theorem Span.decode_toJson {s : Span} (hstart : s.start < Span.limit)
    (hstop : s.stop < Span.limit) : Span.decode s.toJson = .ok s := by
  have hfields : s.toJson = .object [("end", .ofNat s.stop), ("start", .ofNat s.start)] := by
    -- The fields of an object are kept in the order of their names.
    simp only [toJson, Json.ofFields, List.foldl_cons, List.foldl_nil, Json.insertField,
      String.reduceLT, String.reduceBEq, Bool.false_eq_true, if_true, if_false]
  have hread : record.ofFields [("end", .ofNat s.stop), ("start", .ofNat s.start)] =
      .ok (some s.start, some s.stop) := by
    have hend (acc) := Json.Record.set_eq_ok record "end" acc
      (Json.decodeNat_ofNat hstop) rfl
    have hbegin (acc) := Json.Record.set_eq_ok record "start" acc
      (Json.decodeNat_ofNat hstart) rfl
    simp only [Json.Record.ofFields, List.foldlM_cons, List.foldlM_nil, hend, hbegin]
    rfl
  rw [hfields, decode, Json.Record.decode, hread]
  rfl

/-- The JSON form of a message is decoded as the message. -/
theorem Message.decode_toJson {m : Message} (h : m.Fits) : Message.decode m.toJson = .ok m := by
  have hfields : m.toJson = .object
      [("column", .ofNat m.column), ("line", .ofNat m.line), ("message", .string m.text),
        ("ruleId", .string m.ruleId), ("severity", m.severity.toJson),
        ("span", m.span.toJson)] := by
    simp only [toJson, Json.ofFields, List.foldl_cons, List.foldl_nil, Json.insertField,
      String.reduceLT, String.reduceBEq, Bool.false_eq_true, if_true, if_false]
  have hread : record.ofFields
      [("column", .ofNat m.column), ("line", .ofNat m.line), ("message", .string m.text),
        ("ruleId", .string m.ruleId), ("severity", m.severity.toJson), ("span", m.span.toJson)] =
      .ok ⟨some m.ruleId, some m.text, some m.line, some m.column, m.severity, some m.span⟩ := by
    have hcolumn (d) := Json.Record.set_eq_ok record "column" d
      (Json.decodeNat_ofNat h.column_lt) rfl
    have hline (d) := Json.Record.set_eq_ok record "line" d
      (Json.decodeNat_ofNat h.line_lt) rfl
    have hseverity (d) := Json.Record.set_eq_ok record "severity" d
      m.severity.decode_toJson rfl
    have hspan (d) := Json.Record.set_eq_ok record "span" d
      (Span.decode_toJson h.start_lt h.stop_lt) rfl
    simp only [Json.Record.ofFields, List.foldlM_cons, List.foldlM_nil, hcolumn, hline, hseverity,
      hspan]
    rfl
  rw [hfields, decode, Json.Record.decode, hread]
  rfl

/-- Items that are decoded one by one are decoded as a list. -/
theorem Json.decodeList_map {α : Type} {decode : Json.Decoder α} {encode : α → Json}
    {items : List α} (h : ∀ a ∈ items, decode (encode a) = .ok a) :
    Json.decodeList decode (.array (items.map encode)) = .ok items := by
  rw [decodeList, List.mapM_map]
  induction items with
  | nil => rfl
  | cons a items ih =>
    rw [List.forall_mem_cons] at h
    rw [List.mapM_cons, Function.comp_apply, h.1, ih h.2]
    rfl

/-- The JSON form of a result is decoded as the result. -/
theorem FileResult.decode_toJson {r : FileResult} (h : r.Fits) :
    FileResult.decode r.toJson = .ok r := by
  have hfields : r.toJson = .object
      [("filePath", .string r.filePath), ("messages", .array (r.messages.map (·.toJson)))] := by
    simp only [toJson, Json.ofFields, List.foldl_cons, List.foldl_nil, Json.insertField,
      String.reduceLT, String.reduceBEq, Bool.false_eq_true, if_false]
  have hread : record.ofFields
      [("filePath", .string r.filePath), ("messages", .array (r.messages.map (·.toJson)))] =
      .ok (some r.filePath, some r.messages) := by
    have hmessages (acc) := Json.Record.set_eq_ok record "messages" acc
      (Json.decodeList_map fun m hm => Message.decode_toJson (h m hm)) rfl
    simp only [Json.Record.ofFields, List.foldlM_cons, List.foldlM_nil, hmessages]
    rfl
  rw [hfields, decode, Json.Record.decode, hread]
  rfl

/-! ### Reports -/

namespace Formatter

theorem inOrder_messageJson (m : Message) : (messageJson m).inOrder = m.toJson := by
  rfl

/-- A report writes the JSON form of a result, with the fields in another order. -/
theorem inOrder_resultJson (r : FileResult) : (resultJson r).inOrder = r.toJson := by
  have hmessages : Json.itemsInOrder (r.messages.map messageJson) = r.messages.map (·.toJson) := by
    rw [Json.itemsInOrder_eq_map, List.map_map]
    exact List.map_congr_left fun m _ => inOrder_messageJson m
  rw [resultJson, Json.inOrder]
  simp only [Json.fieldsInOrder, Json.inOrder, hmessages]
  rfl

theorem whole_ofNat {n : Nat} (h : n < Span.limit) : (Json.ofNat n).Whole := by
  have hmax : (n : Int) < Nat.pow 2 32 := Int.ofNat_lt.2 h
  refine .int (Int.le_trans (by decide) (Int.natCast_nonneg n)) ?_
  exact Int.le_trans (Int.le_of_lt hmax) (by decide)

theorem whole_messageJson {m : Message} (h : m.Fits) : (messageJson m).Whole := by
  have hspan : (spanJson m.span).Whole := .object <| by
    simpa using ⟨whole_ofNat h.start_lt, whole_ofNat h.stop_lt⟩
  refine .object ?_
  simpa using ⟨.string _, .string _, whole_ofNat h.line_lt, whole_ofNat h.column_lt, .string _,
    hspan⟩

/-- The numbers in a report are places, which fit. -/
theorem whole_resultJson {r : FileResult} (h : r.Fits) : (resultJson r).Whole := by
  have hmessages : ∀ v ∈ r.messages.map messageJson, v.Whole := by
    intro v hv
    obtain ⟨m, hm, rfl⟩ := List.mem_map.1 hv
    exact whole_messageJson (h m hm)
  refine .object ?_
  simpa using ⟨.string _, .array hmessages⟩

variable {results : List FileResult}

theorem whole_results (h : ∀ r ∈ results, r.Fits) :
    (Json.array (results.map resultJson)).Whole := by
  refine .array fun v hv => ?_
  obtain ⟨r, hr, rfl⟩ := List.mem_map.1 hv
  exact whole_resultJson (h r hr)

/-- What is read of a report are the JSON forms of the results. -/
theorem inOrder_results (results : List FileResult) :
    (Json.array (results.map resultJson)).inOrder = .array (results.map (·.toJson)) := by
  rw [Json.inOrder, Json.itemsInOrder_eq_map, List.map_map]
  exact congrArg Json.array (List.map_congr_left fun r _ => inOrder_resultJson r)

/-- Every list of results whose places have 32 bits has a JSON report, and that is not empty. Read
as strict JSON and decoded the report gives the results back, and so it does when the lenient reader
reads it. So no other results have the same report. -/
theorem json_report_read_back (h : ∀ r ∈ results, r.Fits) :
    ∃ report, json results = .ok report ∧ report ≠ "" ∧
      (∃ v, Json.Strict.read? report.toList = some v ∧
        Json.decodeList FileResult.decode v = .ok results) ∧
      (∃ v, Json.read report.toList = .ok (some v) ∧
        Json.decodeList FileResult.decode v = .ok results) ∧
      ∀ others, (∀ r ∈ others, r.Fits) → json others = .ok report → others = results := by
  have hstrict {results : List FileResult} (h : ∀ r ∈ results, r.Fits) :
      Json.Strict.read? (Json.array (results.map resultJson)).render.toList =
        some (.array (results.map (·.toJson))) := by
    rw [Json.render, String.toList_ofList, Json.Strict.read?_chars (whole_results h),
      inOrder_results]
  have hlenient : Json.read (Json.array (results.map resultJson)).render.toList =
      .ok (some (.array (results.map (·.toJson)))) := by
    rw [Json.render, String.toList_ofList, Json.read_chars (whole_results h), inOrder_results]
  have hdecode {results : List FileResult} (h : ∀ r ∈ results, r.Fits) :
      Json.decodeList FileResult.decode (.array (results.map (·.toJson))) = .ok results :=
    Json.decodeList_map fun r hr => FileResult.decode_toJson (h r hr)
  refine ⟨_, rfl, ?_, ⟨_, hstrict h, hdecode h⟩, ⟨_, hlenient, hdecode h⟩, ?_⟩
  · intro hempty
    have hread := hstrict h
    rw [hempty] at hread
    cases hread
  · intro others hothers heq
    -- The two reports are read as one value, which is decoded as the one list or the other.
    have hsame := hstrict hothers
    rw [Except.ok.inj heq, hstrict h] at hsame
    have hlists := hdecode hothers
    rw [← Option.some.inj hsame, hdecode h] at hlists
    exact (Except.ok.inj hlists).symm

/-- A result whose texts hold quotes, backslashes, control characters and a character beyond the
basic plane, and whose places are the greatest that there are. -/
def awkwardResult : FileResult where
  filePath := "C:\\notes\\\"a\".md"
  messages :=
    [⟨"r/\x01", "Found \"😀\n\t\x7f\"", 4294967295, 1, .info, ⟨0, 4294967295⟩⟩,
     ⟨"", "", 1, 4294967295, .error, ⟨7, 3⟩⟩]

theorem json_report_read_back_awkward :
    (∀ r ∈ [awkwardResult, ⟨"", []⟩], r.Fits) ∧
      ∃ report, json [awkwardResult, ⟨"", []⟩] = .ok report ∧ report ≠ "" ∧
        (∃ v, Json.Strict.read? report.toList = some v ∧
          Json.decodeList FileResult.decode v = .ok [awkwardResult, ⟨"", []⟩]) ∧
        ∃ v, Json.read report.toList = .ok (some v) ∧
          Json.decodeList FileResult.decode v = .ok [awkwardResult, ⟨"", []⟩] := by
  have hfits : awkwardResult.Fits := by
    intro m hm
    simp only [awkwardResult, List.mem_cons, List.not_mem_nil, or_false] at hm
    rcases hm with rfl | rfl <;> exact ⟨by decide, by decide, by decide, by decide⟩
  have h : ∀ r ∈ [awkwardResult, ⟨"", []⟩], r.Fits := by
    simpa using ⟨hfits, fun m hm => nomatch hm⟩
  obtain ⟨report, hreport, hne, hstrict, hlenient, -⟩ := json_report_read_back h
  exact ⟨h, report, hreport, hne, hstrict, hlenient⟩

end Formatter

end ProseLinter
