import Unmask.Decimal.Fixed
/-!
# Shortest decimals

`shortest x` is the decimal with the fewest digits that still reads back as `x`, and of those the
nearest to it, the one further from zero where two are equally near. It is written out without an
exponent.

The reals that read back as a double form an interval around it: halfway to its two neighbours, the
ends included when its mantissa is even. A decimal with fewer digits is a point of a coarser grid of
powers of ten, so the search goes from coarse to fine and stops at the first grid with a point in the
interval. Beside the value itself lie only two points of each grid.
-/

namespace Unmask.Decimal

/-- The reals around `mantissa * 2 ^ exponent` that read back as it, in units of
`2 ^ (exponent - 2)`. -/
structure Neighbourhood where
  low : Nat
  middle : Nat
  high : Nat
  /-- Whether the two ends belong to it. -/
  closed : Bool

namespace Neighbourhood

/-- The lower neighbour of a power of two is only half as far away, unless the exponent is the least
there is. -/
def around (mantissa : Nat) (exponent : Int) : Neighbourhood where
  low := if mantissa == Nat.pow 2 52 && exponent != -1074 then 4 * mantissa - 1 else 4 * mantissa - 2
  middle := 4 * mantissa
  high := 4 * mantissa + 2
  closed := mantissa % 2 == 0

/-- Whether a point lies in the neighbourhood, when both are stretched by the same factors. -/
def holds (n : Neighbourhood) (factor point : Nat) : Bool :=
  if n.closed then n.low * factor ≤ point && point ≤ n.high * factor
  else n.low * factor < point && point < n.high * factor

end Neighbourhood

/-- A whole power of `base`, as the factors that it puts above and below a fraction bar. -/
def powerParts (base : Nat) : Int → Nat × Nat
  | .ofNat e => (Nat.pow base e, 1)
  | .negSucc e => (1, Nat.pow base (e + 1))

/-- The point of the grid `10 ^ k` that reads back as `mantissa * 2 ^ exponent`, in units of the
grid: of two the nearer, and of two equally near the upper. -/
def onGrid? (mantissa : Nat) (exponent k : Int) : Option Nat :=
  let n := Neighbourhood.around mantissa exponent
  let (binUp, binDown) := powerParts 2 (exponent - 2)
  let (decUp, decDown) := powerParts 10 k
  let factor := binUp * decDown
  let unit := decUp * binDown
  let below := n.middle * factor / unit
  let gapBelow := n.middle * factor - below * unit
  let gapAbove := (below + 1) * unit - n.middle * factor
  match n.holds factor (below * unit), n.holds factor ((below + 1) * unit) with
  | true, true => some (if gapBelow < gapAbove then below else below + 1)
  | true, false => some below
  | false, true => some (below + 1)
  | false, false => none

/-- The exponents of the grids to try, from coarse to fine. -/
def grids : List Int := (List.range 634).map fun i => 309 - Int.ofNat i

/-- A point of a grid, written out without an exponent. -/
def positional (digits : Nat) : Int → String
  | .ofNat k => toString (digits * Nat.pow 10 k)
  | .negSucc k => withPoint (k + 1) digits

/-- The shortest decimal that reads back as the double. The grids reach from above the largest double
to below the least one, so one of them has a point to offer; all digits are right in any case. -/
def shortest (x : Float) : String :=
  match Binary.ofFloat x with
  | .nan => "NaN"
  | .infinite negative => sign negative ++ "inf"
  | .finite negative 0 _ => sign negative ++ "0"
  | .finite negative mantissa exponent =>
    match grids.findSome? fun k => (onGrid? mantissa exponent k).map (·, k) with
    | some (digits, k) => sign negative ++ positional digits k
    | none => fixed 1074 x

end Unmask.Decimal
