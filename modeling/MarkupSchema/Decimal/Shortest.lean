/-!
# The fewest digits that read back

A finite binary number other than zero is the middle of the interval of
reals that round to it. Its shortest decimal is found on grids of powers of
ten, from coarse to fine: on each grid the only candidates are the number's
two neighbours, and the first grid on which one of them lies in the interval
wins. Of two neighbours in the interval the nearer is taken, and of two
equally near the larger.

All comparisons are exact. Everything is measured in quarters of the
number's last binary place, so the number itself is four times its integer
significand and the ends of the interval are whole numbers.
-/

namespace MarkupSchema.Decimal

/-- A binary number: `significand * 2 ^ exponent`. -/
structure Binary where
  significand : Nat
  exponent : Int
  /-- The gap below is half the gap above: the significand is a power of two
  at which the exponent steps. -/
  narrowBelow : Bool

/-- The magnitude of a finite double, from its bits. -/
def Binary.ofBits (bits : Nat) : Binary :=
  let fraction : Nat := bits % Nat.pow 2 52
  let field : Nat := bits / Nat.pow 2 52 % Nat.pow 2 11
  if field = 0 then ⟨fraction, -1074, false⟩
  else ⟨Nat.pow 2 52 + fraction, (field : Int) - 1075, fraction = 0 && field != 1⟩

/-- A decimal number: `coefficient * 10 ^ exponent`. -/
structure Scaled where
  coefficient : Nat
  exponent : Int
  deriving DecidableEq, Repr

/-- `base ^ exponent` as a fraction, numerator first. -/
def power (base : Nat) (exponent : Int) : Nat × Nat :=
  match exponent with
  | .ofNat n => (Nat.pow base n, 1)
  | .negSucc n => (1, Nat.pow base (n + 1))

/-- The candidate of `value` on the grid of multiples of `10 ^ exponent`, if
one of its two neighbours there rounds to `value`. -/
def Binary.onGrid (value : Binary) (exponent : Int) : Option Scaled :=
  let unit := power 2 (value.exponent - 2)
  let grid := power 10 exponent
  -- A grid point `d` and `q` quarters compare as `d * step` and `q * scale`.
  let step := grid.1 * unit.2
  let scale := unit.1 * grid.2
  let middle := 4 * value.significand * scale
  let low := (4 * value.significand - if value.narrowBelow then 1 else 2) * scale
  let high := (4 * value.significand + 2) * scale
  let inside (d : Nat) : Bool :=
    if value.significand % 2 = 0 then low ≤ d * step && d * step ≤ high
    else low < d * step && d * step < high
  let below := middle / step
  let above := below + 1
  match inside below, inside above with
  | true, true =>
      if middle - below * step < above * step - middle then some ⟨below, exponent⟩
      else some ⟨above, exponent⟩
  | true, false => some ⟨below, exponent⟩
  | false, true => some ⟨above, exponent⟩
  | false, false => none

/-- The shortest decimal of a number other than zero. The grids run from
above the largest double down to the last binary place of the smallest, on
which every double is a point. -/
def Binary.shortest (value : Binary) : Scaled :=
  ((List.range 1385).findSome? fun (i : Nat) => value.onGrid (310 - (i : Int))).getD ⟨0, 0⟩

end MarkupSchema.Decimal
