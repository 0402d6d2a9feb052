/-!
# Shortest decimal form of a double

Every finite double that is not zero is `m · 2 ^ q` for natural `m`. The decimals that read back as
it form an interval around it, whose ends are half way to its neighbours and belong to it exactly
when `m` is even. Of those decimals the shortest is taken, and of two equally short ones the nearer.

* `Binary.ofFloat` decodes a double.
* `Binary.shortest` searches the decimal grids from the coarsest on.
-/

namespace ProseLinter.Decimal

/-- A positive binary fraction `mantissa · 2 ^ exponent`, with the exponent shifted by 1076 so that
it is a natural number; `narrow` says that the neighbour below is only half as far as the one
above. -/
structure Binary where
  mantissa : Nat
  shifted : Nat
  narrow : Bool

/-- A decimal `digits · 10 ^ exponent`. -/
structure Value where
  digits : Nat
  exponent : Int

/-- The weight of the bit that holds the sign of a double. -/
def Binary.signBit : Nat := Nat.pow 2 63

/-- The weight of the lowest bit of the exponent of a double, and of the leading bit of the mantissa
that is not written. -/
def Binary.exponentBit : Nat := Nat.pow 2 52

/-- The magnitude of a finite double. -/
def Binary.ofFloat (x : Float) : Binary :=
  let bits := x.toBits.toNat % signBit
  let biased := bits / exponentBit
  let fraction := bits % exponentBit
  if biased == 0 then ⟨fraction, 2, false⟩
  else ⟨exponentBit + fraction, biased + 1, fraction == 0 && 1 < biased⟩

/-- The number of decimal digits of a natural number. -/
def digitCount (n : Nat) : Nat :=
  (Nat.toDigits 10 n).length

/-- A decimal without trailing zeros in its digits. -/
def Value.normalize (fuel : Nat) (d : Value) : Value :=
  match fuel with
  | 0 => d
  | fuel + 1 =>
    if d.digits != 0 && d.digits % 10 == 0 then
      Value.normalize fuel ⟨d.digits / 10, d.exponent + 1⟩
    else d

/-- The least power of ten, as an exponent below `bound`, by which `num` has to be multiplied to
reach `den`. -/
def scaleUp (num den : Nat) (bound : Nat) : Nat :=
  match (List.range bound).find? fun j => den ≤ num * Nat.pow 10 j with
  | some j => j
  | none => bound

/-- The candidate with `n` digits: the grid point next to `num / den` that lies in the interval
from `low / den` to `high / den`, the nearer of the two if both do. -/
def candidate? (num den low high : Nat) (closed : Bool) (top : Int) (n : Nat) : Option Value :=
  -- the grid step is 10 ^ k, and the value has its first digit at 10 ^ top
  let k : Int := top - (n - 1 : Nat)
  -- scale all numbers so that one grid step is `step`
  let (num, low, high, step) :=
    if 0 ≤ k then (num, low, high, den * Nat.pow 10 k.toNat)
    else
      let f := Nat.pow 10 (-k).toNat
      (num * f, low * f, high * f, den)
  let below := num / step
  let inside := fun d : Nat =>
    if closed then low ≤ d * step && d * step ≤ high else low < d * step && d * step < high
  let down := inside below
  let up := inside (below + 1)
  if down && up then
    let toDown := num - below * step
    let toUp := (below + 1) * step - num
    if toDown < toUp || (toDown == toUp && below % 2 == 0) then some ⟨below, k⟩
    else some ⟨below + 1, k⟩
  else if down then some ⟨below, k⟩
  else if up then some ⟨below + 1, k⟩
  else none

/-- The shortest decimal that reads back as the fraction. -/
def Binary.shortest (b : Binary) : Value :=
  if b.mantissa == 0 then ⟨0, 0⟩
  else
    -- everything is a multiple of a quarter of the last binary place
    let den := Nat.pow 2 1078
    let unit := Nat.pow 2 b.shifted
    let num := 4 * b.mantissa * unit
    let high := (4 * b.mantissa + 2) * unit
    let low := (4 * b.mantissa - (if b.narrow then 1 else 2)) * unit
    let top : Int :=
      if den ≤ num then (digitCount (num / den) : Int) - 1
      else -(scaleUp num den 400 : Int)
    match ((List.range 17).map (· + 1)).findSome? (candidate? num den low high
        (b.mantissa % 2 == 0) top) with
    | some d => d.normalize 20
    | none => ⟨0, 0⟩

end ProseLinter.Decimal
