import ProseLinter.Text.Slice

/-!
# Pieces of a text

A text is cut after every character of a given kind, such as a newline or the end of a sentence.

* `pieces` gives the pieces with their byte offsets; the last one may lack the character that ends
  the others.
* `flatMap_chars_pieces` : the pieces joined give the text back.
* `chars_ne_nil_of_mem_pieces` : no piece is empty.
-/

namespace ProseLinter.Text

/-- A part of a text and the byte offset at which it starts. -/
structure Piece where
  start : Nat
  chars : List Char
deriving Repr

/-- The byte offset at which a piece stops. -/
def Piece.stop (p : Piece) : Nat :=
  p.start + byteLength p.chars

/-- The pieces of the rest of a text that begins at `offset`, inside a piece that starts at
`start`; `current` holds the piece's characters so far and `done` the pieces before it, both with
the last one first. -/
def piecesFrom (ends : Char → Bool) (done : List Piece) (start : Nat) (current : List Char)
    (offset : Nat) : List Char → List Piece
  | [] => (if current.isEmpty then done else ⟨start, current.reverse⟩ :: done).reverse
  | c :: cs =>
    let next := offset + c.utf8Size
    if ends c then piecesFrom ends (⟨start, (c :: current).reverse⟩ :: done) next [] next cs
    else piecesFrom ends done start (c :: current) next cs

/-- The pieces of a text, cut after every character that satisfies `ends`. -/
def pieces (ends : Char → Bool) (text : List Char) : List Piece :=
  piecesFrom ends [] 0 [] 0 text

theorem flatMap_chars_piecesFrom (ends : Char → Bool) (done : List Piece) (start : Nat)
    (current : List Char) (offset : Nat) (cs : List Char) :
    (piecesFrom ends done start current offset cs).flatMap (·.chars) =
      done.reverse.flatMap (·.chars) ++ current.reverse ++ cs := by
  induction cs generalizing done start current offset with
  | nil => cases current <;> simp [piecesFrom]
  | cons c cs ih =>
    rw [piecesFrom]
    split <;> simp [ih]

/-- Cutting loses nothing: the pieces joined give the text back. -/
theorem flatMap_chars_pieces (ends : Char → Bool) (text : List Char) :
    (pieces ends text).flatMap (·.chars) = text := by
  simp [pieces, flatMap_chars_piecesFrom]

theorem chars_ne_nil_of_mem_piecesFrom {ends : Char → Bool} {done : List Piece} {start : Nat}
    {current : List Char} {offset : Nat} {cs : List Char} {p : Piece}
    (hdone : ∀ q ∈ done, q.chars ≠ []) (h : p ∈ piecesFrom ends done start current offset cs) :
    p.chars ≠ [] := by
  induction cs generalizing done start current offset with
  | nil =>
    cases current with
    | nil => exact hdone p (by simpa [piecesFrom] using h)
    | cons c current =>
      have h : p ∈ done ∨ p = ⟨start, (c :: current).reverse⟩ := by
        simpa [piecesFrom] using h
      rcases h with h | rfl
      · exact hdone p h
      · simp
  | cons c cs ih =>
    rw [piecesFrom] at h
    split at h
    · refine ih (fun q hq => ?_) h
      rcases List.mem_cons.1 hq with rfl | hq
      · simp
      · exact hdone q hq
    · exact ih hdone h

/-- No piece is empty. -/
theorem chars_ne_nil_of_mem_pieces {ends : Char → Bool} {text : List Char} {p : Piece}
    (h : p ∈ pieces ends text) : p.chars ≠ [] :=
  chars_ne_nil_of_mem_piecesFrom (by simp) h

end ProseLinter.Text
