/-!
# Blanks

The characters with the Unicode property White_Space, and the removal of blanks at the ends of a
text.

* `trimStart_append` and `trimEndWhile_append` say that trimming takes away such characters only.
-/

namespace ProseLinter.Text

/-- The characters with the property White_Space. -/
def isBlank (c : Char) : Bool :=
  let n := c.toNat
  (0x09 ≤ n && n ≤ 0x0D) || n == 0x20 || n == 0x85 || n == 0xA0 || n == 0x1680
    || (0x2000 ≤ n && n ≤ 0x200A) || n == 0x2028 || n == 0x2029 || n == 0x202F || n == 0x205F
    || n == 0x3000

/-- The text without the blanks it begins with. -/
def trimStart (cs : List Char) : List Char :=
  cs.dropWhile isBlank

/-- The text without the characters at its end that satisfy `p`. -/
def trimEndWhile (p : Char → Bool) (cs : List Char) : List Char :=
  (cs.reverse.dropWhile p).reverse

/-- The text without the blanks it ends with. -/
def trimEnd (cs : List Char) : List Char :=
  trimEndWhile isBlank cs

/-- The text without the blanks at both ends. -/
def trim (cs : List Char) : List Char :=
  trimEnd (trimStart cs)

/-- Trimming the start removes a run of blanks. -/
theorem trimStart_append (cs : List Char) :
    cs.takeWhile isBlank ++ trimStart cs = cs :=
  List.takeWhile_append_dropWhile

/-- Trimming the end removes a run of characters that satisfy `p`. -/
theorem trimEndWhile_append (p : Char → Bool) (cs : List Char) :
    trimEndWhile p cs ++ (cs.reverse.takeWhile p).reverse = cs := by
  rw [trimEndWhile, ← List.reverse_append, List.takeWhile_append_dropWhile, List.reverse_reverse]

end ProseLinter.Text
