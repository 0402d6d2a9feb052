/-!
# Ranges of code points

A Unicode property is given by the sorted list of its ranges of code points, both ends included.
This module says when a character lies in such a list; the tables are in the modules named for
the properties.
-/

namespace ProseLinter.Text

/-- Whether the character lies in one of the ranges, ends included. -/
def inRanges (ranges : List (Nat × Nat)) (c : Char) : Bool :=
  ranges.any fun r => r.1 ≤ c.toNat && c.toNat ≤ r.2

end ProseLinter.Text
