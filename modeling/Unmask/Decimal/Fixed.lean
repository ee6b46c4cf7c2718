import Unmask.Decimal.Binary
/-!
# Decimals with a fixed number of places

`fixed places x` is the decimal with that many digits after the point that lies nearest to the exact
value of `x`; a half goes to the even neighbour. The sign stays also where only zeros are left.
-/

namespace Unmask.Decimal

/-- The multiple of `10 ^ (-places)` nearest to `mantissa * 2 ^ exponent`, in units of it. -/
def scaled (places mantissa : Nat) : Int → Nat
  | .ofNat e => mantissa * Nat.pow 2 e * Nat.pow 10 places
  | .negSucc e => roundHalfEven (mantissa * Nat.pow 10 places) (Nat.pow 2 (e + 1))

/-- A double with that many digits after the point. -/
def fixed (places : Nat) (x : Float) : String :=
  match Binary.ofFloat x with
  | .nan => "NaN"
  | .infinite negative => sign negative ++ "inf"
  | .finite negative mantissa exponent =>
    sign negative ++ withPoint places (scaled places mantissa exponent)

end Unmask.Decimal
