import Mathlib.Data.List.Infix
import ProseLinter.Proofs.Rule.Scan
import ProseLinter.Proofs.Rule.Words

/-!
# What the rule against doubled words reports

The rule compares each word of a text with the one before it. It reports those that are written
alike, but for the case of their letters, with only blanks in between.

* `NoDoubledWord.doubled` : the words of a text that repeat the one before; `mem_doubled_iff` says
  which these are, and `doubled_sublist` in which order they come.
* `NoDoubledWord.messages_of_words` : the messages of the rule.
-/

namespace ProseLinter.NoDoubledWord

open Text
open scoped List

variable {text : List Char} {p : Piece} {v w : Word}

/-! ### Words and the words before them -/

/-- The pairs that a list forms with itself moved by one are its neighbours. -/
theorem mem_zip_drop_iff {α : Type} {a b : α} {xs : List α} :
    (a, b) ∈ xs.zip (xs.drop 1) ↔ [a, b] <:+: xs := by
  refine ⟨isInfix_of_mem_zip_drop, ?_⟩
  rintro ⟨front, back, rfl⟩
  induction front with
  | nil => simp
  | cons x front ih =>
    obtain ⟨y, rest, hrest⟩ : ∃ y rest, front ++ [a, b] ++ back = y :: rest :=
      List.exists_cons_of_ne_nil (by simp)
    rw [hrest] at ih
    rw [List.cons_append, List.cons_append, hrest]
    exact List.mem_cons_of_mem _ ih

/-- A word repeats the one before it if it has the same lower case and only blanks stand between
them. -/
theorem repeats_iff (h : [v, w] <:+: words text) :
    repeats v w = true ↔
      OnlyBlanks text v.piece.stop w.piece.start ∧ lower w.chars = lower v.chars := by
  have hpair := List.IsChain.infix (areWords_words text).neighbours h
  have hflag := (List.isChain_cons_cons.1 hpair).1
  rw [repeats, Bool.and_eq_true, beq_iff_eq, hflag]
  rfl

/-- The words of a text that repeat the one before. -/
def doubled (text : List Char) : List Piece :=
  (((words text).zip ((words text).drop 1)).filter fun (before, word) => repeats before word).map
    fun (_, word) => word.piece

theorem mem_doubled_iff :
    p ∈ doubled text ↔ ∃ q, [q, p] <:+: (words text).map Word.piece ∧
      OnlyBlanks text q.stop p.start ∧ lower p.chars = lower q.chars := by
  simp only [doubled, List.mem_map, List.mem_filter, Prod.exists, mem_zip_drop_iff]
  constructor
  · rintro ⟨v, w, ⟨hneighbours, hrepeats⟩, rfl⟩
    exact ⟨v.piece, hneighbours.map Word.piece, (repeats_iff hneighbours).1 hrepeats⟩
  · rintro ⟨q, hneighbours, hdoubled⟩
    obtain ⟨ws, hws, hpieces⟩ := List.infix_map_iff.1 hneighbours
    obtain ⟨v, rest, rfl, rfl, hrest⟩ := List.map_eq_cons_iff.1 hpieces.symm
    obtain ⟨w, rfl, rfl⟩ := List.map_eq_singleton_iff.1 hrest
    exact ⟨v, w, ⟨hws, (repeats_iff hws).2 hdoubled⟩, rfl⟩

/-- The words that repeat the one before come in the order of the text. -/
theorem doubled_sublist (text : List Char) : doubled text <+ (words text).map Word.piece := by
  have hlater : ((words text).zip ((words text).drop 1)).map Prod.snd <+ words text := by
    rw [List.map_snd_zip (by simp)]
    exact List.drop_sublist 1 _
  have hpieces := hlater.map Word.piece
  rw [List.map_map] at hpieces
  exact (List.filter_sublist.map _).trans hpieces

/-! ### Messages -/

/-- The match for a word that repeats the one before. -/
def toMatch (p : Piece) : Match :=
  ⟨p.start, p.chars, messageText p.chars, .error⟩

/-- The search matches the words that repeat the one before. -/
theorem search_eq_map (text : List Char) : search text = (doubled text).map toMatch := by
  rw [doubled, List.map_map, ← List.filterMap_eq_map, List.filterMap_filter, search, searchAmong]
  rfl

/-- The message for a word in a node: it is about the word and quotes it. -/
structure IsMessage (c : Rule.Context) (place : Node × Piece) (message : Message) : Prop where
  isAbout : c.IsAbout place message
  text_eq : message.text = "\"" ++ String.ofList place.2.chars ++ "\" is repeated."
  severity_eq : message.severity = c.forced.getD .error

theorem isMessage_of_mem_doubled {c : Rule.Context} {node : Node}
    (hp : p ∈ doubled (node.raw c.source)) :
    IsMessage c (node, p) (c.message ((toMatch p).finding node)) where
  isAbout := by
    have hmem : toMatch p ∈ search (node.raw c.source) := by
      rw [search_eq_map]
      exact List.mem_map_of_mem hp
    exact Rule.Context.isAbout_message_finding (readsIn_of_mem_search hmem).1
  text_eq := rfl
  severity_eq := rfl

/-- The words of a text are determined, and so are those that repeat the one before. In each text
node of a document the rule reports the latter in order, and it never fails. -/
theorem messages_of_words :
    (∀ text ws, AreWords text ws ↔ ws = words text) ∧
    (∀ text, doubled text <+ (words text).map Word.piece ∧
      ∀ p, p ∈ doubled text ↔ ∃ q, [q, p] <:+: (words text).map Word.piece ∧
        OnlyBlanks text q.stop p.start ∧ lower p.chars = lower q.chars) ∧
    ∀ c : Rule.Context,
      (rule.check c).failure = none ∧
      List.Forall₂ (IsMessage c)
        ((c.document.ofType .str).flatMap fun node =>
          (doubled (node.raw c.source)).map (node, ·))
        ((rule.check c).messages c) := by
  refine ⟨fun _ _ => areWords_iff, fun text => ⟨doubled_sublist text, fun p => mem_doubled_iff⟩, ?_⟩
  intro c
  refine ⟨rfl, ?_⟩
  exact Rule.Context.forall₂_messages_scan search_eq_map fun _ _ => isMessage_of_mem_doubled

end ProseLinter.NoDoubledWord
