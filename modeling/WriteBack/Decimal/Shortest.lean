/-
# The shortest decimal of a binary fraction

Among the decimals that a double-precision number reads back from, one with
the fewest digits is written; of those, the one nearest to the number; of
two equally near, the even one.

The reals that round to `mantissa * 2 ^ exponent` form an interval around
it.  Its ends lie half way to the neighbours, and belong to it just when the
mantissa is even.  On each decimal grid only two points can be the nearest
one inside, the number's own neighbours there.  So the grids are tried from
the coarsest on, and the first one with a point inside gives the digits.
-/
namespace WriteBack.Decimal

/-- A positive double-precision number `mantissa * 2 ^ exponent`.  It is
`cramped` if its lower neighbour is only half as far as its upper one. -/
structure Binary where
  mantissa : Nat
  exponent : Int
  cramped : Bool
deriving DecidableEq, Repr

namespace Binary

/-- Reads a number off its bits, without the sign. -/
def ofBits (bits : UInt64) : Binary :=
  let fraction : Nat := bits.toNat % Nat.pow 2 52
  let biased : Nat := bits.toNat / Nat.pow 2 52 % Nat.pow 2 11
  if biased = 0 then ⟨fraction, -1074, false⟩
  else ⟨Nat.pow 2 52 + fraction, (biased : Int) - 1075, fraction = 0 && 1 < biased⟩

/-- The multiple of `10 ^ k` that reads back as the number and is nearest to
it, if there is one.  Everything is compared exactly, in quarters of a unit
of the mantissa. -/
def onGrid (x : Binary) (k : Int) : Option Nat :=
  let scale := Nat.pow 2 (x.exponent - 2).toNat * Nat.pow 10 (-k).toNat
  let step := Nat.pow 2 (2 - x.exponent).toNat * Nat.pow 10 k.toNat
  let value := 4 * x.mantissa * scale
  let low := (4 * x.mantissa - if x.cramped then 1 else 2) * scale
  let high := (4 * x.mantissa + 2) * scale
  let inside := fun digits =>
    if x.mantissa % 2 = 0 then low ≤ digits * step && digits * step ≤ high
    else low < digits * step && digits * step < high
  let below := value / step
  let nearest :=
    match compare (2 * value) ((2 * below + 1) * step) with
    | .lt => below
    | .gt => below + 1
    | .eq => below + below % 2
  if inside below && inside (below + 1) then some nearest
  else if inside below then some below
  else if inside (below + 1) then some (below + 1)
  else none

/-- The grids on which a number can have its shortest form, from the
coarsest on. -/
def grids : List Int :=
  (List.range 660).map fun (i : Nat) => 309 - (i : Int)

/-- The digits of the shortest decimal and the power of ten they are
multiples of. -/
def shortest (x : Binary) : Nat × Int :=
  (grids.findSome? fun k => (x.onGrid k).map fun digits => (digits, k)).getD (0, 0)

end Binary

end WriteBack.Decimal
