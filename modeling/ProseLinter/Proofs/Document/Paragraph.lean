import Mathlib.Data.List.Induction
import ProseLinter.Document.PlainText
import ProseLinter.Proofs.Text.Piece

/-!
# Paragraphs of two texts

A blank line closes the paragraph that is open, so what stands before it and what follows have
their paragraphs each by themselves.

* `PlainText.paragraphs_append_newline` : a newline at the end of a text does not matter.
* `PlainText.paragraphs_append` : the paragraphs of two texts with a blank line between.
* `PlainText.paragraphs_of_one_line` : a text of one line has one paragraph.
* `PlainText.le_of_mem_paragraphs` : paragraphs do not reach past the end of the text.
-/

namespace ProseLinter.PlainText

open Text

variable {text : List Char}

/-! ### Lines -/

/-- A newline is no part of the line without its end. -/
theorem withoutEnd_append_newline (start : Nat) (chars : List Char) :
    withoutEnd ⟨start, chars ++ ['\n']⟩ = withoutEnd ⟨start, chars⟩ := by
  simp [withoutEnd, trimEndWhile]

/-- The lines of two texts with a newline between. -/
theorem lines_append (a b : List Char) :
    lines (a ++ '\n' :: b) =
      lines (a ++ ['\n']) ++ (lines b).map (·.shift (byteLength (a ++ ['\n']))) := by
  have happend : pieces (· == '\n') (a ++ '\n' :: b) = _ := pieces_append rfl a b
  rw [lines, happend, List.map_append, List.map_map, lines, lines, List.map_map]
  rfl

/-- With a newline at the end a text has the same lines, or one more that is blank. -/
theorem lines_append_newline (text : List Char) :
    lines (text ++ ['\n']) = lines text ∨
      ∃ blank, isBlankLine blank = true ∧ lines (text ++ ['\n']) = lines text ++ [blank] := by
  have hfrom (start : Nat) (current : List Char) (offset : Nat) :
      (piecesFrom (· == '\n') [] start current offset (text ++ ['\n'])).map withoutEnd =
          (piecesFrom (· == '\n') [] start current offset text).map withoutEnd ∨
        ∃ blank, isBlankLine blank = true ∧
          (piecesFrom (· == '\n') [] start current offset (text ++ ['\n'])).map withoutEnd =
            (piecesFrom (· == '\n') [] start current offset text).map withoutEnd ++ [blank] := by
    induction text generalizing start current offset with
    | nil =>
      -- The newline ends the unfinished line, or it is a line of its own.
      cases current with
      | nil => exact .inr ⟨⟨start, []⟩, rfl, rfl⟩
      | cons c current =>
        refine .inl ?_
        have hend := withoutEnd_append_newline start (c :: current).reverse
        rw [← List.reverse_cons] at hend
        exact congrArg (fun line => [line]) hend
    | cons c text ih =>
      simp only [List.cons_append, piecesFrom]
      split
      · rw [piecesFrom_done [_], piecesFrom_done [_] _ _ _ text, List.map_append, List.map_append]
        rcases ih (offset + c.utf8Size) [] (offset + c.utf8Size) with h | ⟨blank, hblank, h⟩
        · exact .inl (by rw [h])
        · exact .inr ⟨blank, hblank, by rw [h, List.append_assoc]⟩
      · exact ih ..
  exact hfrom 0 [] 0

/-! ### Paragraphs -/

/-- The paragraph that is open after a line: a new one, or the one before with that line. -/
def opens (opened? : Option Span) (line : Piece) : Span :=
  ⟨(opened?.map (·.start)).getD line.start, line.stop⟩

theorem paragraphsFrom_of_blank {line : Piece} (h : isBlankLine line = true) (done : List Span)
    (opened? : Option Span) (ls : List Piece) :
    paragraphsFrom done opened? (line :: ls) = paragraphsFrom (opened?.toList ++ done) none ls := by
  cases opened? <;> rw [paragraphsFrom, if_pos h]

theorem paragraphsFrom_of_not_blank {line : Piece} (h : isBlankLine line = false)
    (done : List Span) (opened? : Option Span) (ls : List Piece) :
    paragraphsFrom done opened? (line :: ls) =
      paragraphsFrom done (some (opens opened? line)) ls := by
  cases opened? <;> rw [paragraphsFrom, if_neg (by simp [h])] <;> rfl

/-- The paragraphs before come first. -/
theorem paragraphsFrom_done (done : List Span) (opened? : Option Span) (ls : List Piece) :
    paragraphsFrom done opened? ls = done.reverse ++ paragraphsFrom [] opened? ls := by
  induction ls generalizing done opened? with
  | nil => simp [paragraphsFrom]
  | cons line ls ih =>
    cases h : isBlankLine line with
    | true =>
      rw [paragraphsFrom_of_blank h, paragraphsFrom_of_blank h, ih, ih (opened?.toList ++ [])]
      simp
    | false => rw [paragraphsFrom_of_not_blank h, paragraphsFrom_of_not_blank h, ih]

/-- A blank line closes the paragraph that is open, and leaves none open. -/
theorem paragraphsFrom_append_blank {blank : Piece} (hblank : isBlankLine blank = true)
    (opened? : Option Span) (before after : List Piece) :
    paragraphsFrom [] opened? (before ++ blank :: after) =
      paragraphsFrom [] opened? before ++ paragraphsFrom [] none after := by
  induction before generalizing opened? with
  | nil =>
    rw [List.nil_append, paragraphsFrom_of_blank hblank, paragraphsFrom_done]
    rfl
  | cons line before ih =>
    rw [List.cons_append]
    cases h : isBlankLine line with
    | true =>
      rw [paragraphsFrom_of_blank h, paragraphsFrom_of_blank h, paragraphsFrom_done, ih,
        paragraphsFrom_done (opened?.toList ++ []) none before, List.append_assoc]
    | false => rw [paragraphsFrom_of_not_blank h, paragraphsFrom_of_not_blank h, ih]

theorem opens_shift (opened? : Option Span) (line : Piece) (bytes : Nat) :
    opens (opened?.map (·.shift bytes)) (line.shift bytes) = (opens opened? line).shift bytes := by
  have hstop : (line.shift bytes).stop = line.stop + bytes := Nat.add_right_comm ..
  cases opened? <;> simp only [opens, hstop] <;> rfl

/-- Offsets do not matter for where paragraphs begin and end. -/
theorem paragraphsFrom_shift (bytes : Nat) (opened? : Option Span) (ls : List Piece) :
    paragraphsFrom [] (opened?.map (·.shift bytes)) (ls.map (·.shift bytes)) =
      (paragraphsFrom [] opened? ls).map (·.shift bytes) := by
  induction ls generalizing opened? with
  | nil => cases opened? <;> rfl
  | cons line ls ih =>
    have hline : isBlankLine (line.shift bytes) = isBlankLine line := rfl
    rw [List.map_cons]
    cases h : isBlankLine line with
    | true =>
      rw [paragraphsFrom_of_blank (hline.trans h), paragraphsFrom_of_blank h, paragraphsFrom_done,
        paragraphsFrom_done (opened?.toList ++ []), List.map_append, ← ih none]
      cases opened? <;> rfl
    | false =>
      rw [paragraphsFrom_of_not_blank (hline.trans h), paragraphsFrom_of_not_blank h, ← ih,
        opens_shift]
      rfl

/-- A newline at the end of a text does not matter. -/
theorem paragraphs_append_newline (text : List Char) :
    paragraphs (text ++ ['\n']) = paragraphs text := by
  rcases lines_append_newline text with h | ⟨blank, hblank, h⟩
  · rw [paragraphs, h, paragraphs]
  · rw [paragraphs, h, paragraphsFrom_append_blank hblank, paragraphs]
    exact List.append_nil _

/-- Newlines alone have no paragraphs. -/
theorem paragraphs_of_newlines (h : ∀ c ∈ text, c = '\n') : paragraphs text = [] := by
  induction text using List.reverseRecOn with
  | nil => rfl
  | append_singleton text c ih =>
    obtain ⟨htext, hc⟩ := List.forall_mem_append.1 h
    rw [hc c (List.mem_singleton_self c), paragraphs_append_newline, ih htext]

/-- The paragraphs of two texts with a blank line between: those of the first, and those of the
second behind it. -/
theorem paragraphs_append (a b : List Char) :
    paragraphs (a ++ ['\n', '\n'] ++ b) =
      paragraphs a ++ (paragraphs b).map (·.shift (byteLength (a ++ ['\n', '\n']))) := by
  -- The second newline is a blank line between those of the two texts.
  have hsplit : lines (a ++ ['\n', '\n'] ++ b) = lines (a ++ ['\n']) ++
      Piece.shift ⟨0, []⟩ (byteLength (a ++ ['\n'])) ::
        (lines b).map (·.shift (byteLength (a ++ ['\n', '\n']))) := by
    have hfirst : lines (a ++ ['\n', '\n'] ++ b) =
        lines (a ++ ['\n']) ++ (lines ('\n' :: b)).map (·.shift (byteLength (a ++ ['\n']))) := by
      rw [List.append_assoc]
      exact lines_append a ('\n' :: b)
    have hsecond : lines ('\n' :: b) = ⟨0, []⟩ :: (lines b).map (·.shift 1) := lines_append [] b
    have hbytes (line : Piece) : (line.shift 1).shift (byteLength (a ++ ['\n'])) =
        line.shift (byteLength (a ++ ['\n', '\n'])) := by
      have hnewline : ('\n' : Char).utf8Size = 1 := rfl
      simp only [Piece.shift, byteLength_append, byteLength_cons, byteLength_nil, hnewline,
        Piece.mk.injEq, and_true]
      omega
    rw [hfirst, hsecond, List.map_cons, List.map_map]
    simp only [Function.comp_def, hbytes]
  rw [paragraphs, hsplit, paragraphsFrom_append_blank rfl]
  have hfirst := paragraphs_append_newline a
  rw [paragraphs] at hfirst
  rw [hfirst, paragraphs, paragraphs, ← paragraphsFrom_shift]
  rfl

/-- A text of one line, which is not blank, is one paragraph. -/
theorem paragraphs_of_one_line (hend : ∀ c ∈ text, c ≠ '\n' ∧ c ≠ '\r')
    (hblank : ∃ c ∈ text, isBlank c = false) : paragraphs text = [⟨0, byteLength text⟩] := by
  have hne : text ≠ [] := by
    rintro rfl
    obtain ⟨c, hc, -⟩ := hblank
    cases hc
  have hpieces : pieces (· == '\n') text = [⟨0, text⟩] :=
    pieces_of_no_end hne fun c hc => by simp [(hend c hc).1]
  have htrim : trimEndWhile (fun c => c == '\n' || c == '\r') text = text := by
    have hkept : text.reverse.dropWhile (fun c => c == '\n' || c == '\r') = text.reverse := by
      cases hreverse : text.reverse with
      | nil => rfl
      | cons c rest =>
        have hlast := hend c (List.mem_reverse.1 (hreverse ▸ List.mem_cons_self))
        exact List.dropWhile_cons_of_neg (by simp [hlast])
    rw [trimEndWhile, hkept, List.reverse_reverse]
  have hline : isBlankLine ⟨0, text⟩ = false := by
    rw [isBlankLine, List.all_eq_false]
    obtain ⟨c, hc, h⟩ := hblank
    exact ⟨c, hc, by simp [h]⟩
  rw [paragraphs, lines, hpieces, List.map_singleton, withoutEnd, htrim,
    paragraphsFrom_of_not_blank hline]
  simp [paragraphsFrom, opens, Piece.stop]

/-- The document of a text and all that is in it. -/
theorem walk_parse (text : List Char) :
    (parse text).walk =
      parse text :: (paragraphs text).flatMap fun span => (paragraphNode text span).walk := by
  rw [Node.walk_eq]
  exact congrArg _ (List.flatMap_map ..)

theorem le_of_mem_lines {line : Piece} (h : line ∈ lines text) :
    line.start ≤ byteLength text ∧ line.stop ≤ byteLength text := by
  obtain ⟨p, hp, rfl⟩ := List.mem_map.1 h
  have hstop := stop_le_of_slice? (slice?_of_mem_pieces hp)
  have htrim := congrArg byteLength
    (trimEndWhile_append (fun c => c == '\n' || c == '\r') p.chars)
  rw [byteLength_append] at htrim
  simp only [Piece.stop, withoutEnd] at hstop ⊢
  omega

/-- What lines do not reach past, paragraphs do not reach past either. -/
theorem le_of_mem_paragraphsFrom {opened? : Option Span} {ls : List Piece} {bound : Nat}
    (hopened : ∀ s ∈ opened?, s.start ≤ bound ∧ s.stop ≤ bound)
    (hlines : ∀ line ∈ ls, line.start ≤ bound ∧ line.stop ≤ bound) :
    ∀ s ∈ paragraphsFrom [] opened? ls, s.start ≤ bound ∧ s.stop ≤ bound := by
  induction ls generalizing opened? with
  | nil => simpa [paragraphsFrom] using hopened
  | cons line ls ih =>
    obtain ⟨hline, hls⟩ := List.forall_mem_cons.1 hlines
    intro s hs
    cases h : isBlankLine line with
    | true =>
      rw [paragraphsFrom_of_blank h, paragraphsFrom_done] at hs
      rcases List.mem_append.1 hs with hs | hs
      · exact hopened s (by simpa using hs)
      · exact ih (by simp) hls s hs
    | false =>
      rw [paragraphsFrom_of_not_blank h] at hs
      refine ih (fun s hs => ?_) hls s hs
      -- The open paragraph stops where the line does, and begins there only if it is new.
      obtain rfl := Option.some.inj hs
      refine ⟨?_, hline.2⟩
      cases opened? with
      | none => exact hline.1
      | some before => exact (hopened before rfl).1

/-- Paragraphs do not reach past the end of the text. -/
theorem le_of_mem_paragraphs {s : Span} (h : s ∈ paragraphs text) :
    s.start ≤ byteLength text ∧ s.stop ≤ byteLength text :=
  le_of_mem_paragraphsFrom (by simp) (fun _ hline => le_of_mem_lines hline) s h

end ProseLinter.PlainText
