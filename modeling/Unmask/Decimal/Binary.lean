/-!
# Exact values of floating-point numbers

A finite double is a whole number times a power of two. `Binary.ofFloat` reads sign, whole number and
exponent off the 64 bits, so that decimals can be computed in whole numbers without rounding twice.
-/

namespace Unmask.Decimal

/-- What the bits of a double stand for. -/
inductive Binary where
  | nan
  | infinite (negative : Bool)
  /-- The number `mantissa * 2 ^ exponent`, or its negative. -/
  | finite (negative : Bool) (mantissa : Nat) (exponent : Int)
  deriving DecidableEq

namespace Binary

/-- The parts of a double: one bit of sign, eleven of exponent, fifty-two of fraction. -/
def ofBits (bits : UInt64) : Binary :=
  let n := bits.toNat
  let negative := n / Nat.pow 2 63 == 1
  let exponent := n / Nat.pow 2 52 % Nat.pow 2 11
  let fraction := n % Nat.pow 2 52
  if exponent == 2047 then if fraction == 0 then infinite negative else nan
  else if exponent == 0 then finite negative fraction (-1074)
  else finite negative (Nat.pow 2 52 + fraction) (Int.ofNat exponent - 1075)

/-- The exact value of a double. -/
def ofFloat (x : Float) : Binary := ofBits x.toBits

end Binary

/-- The mark before a negative number. -/
def sign (negative : Bool) : String := if negative then "-" else ""

/-- A fraction of whole numbers to the nearest whole number, a half to the even neighbour. -/
def roundHalfEven (num den : Nat) : Nat :=
  let q := num / den
  let r := num % den
  if 2 * r < den then q
  else if den < 2 * r then q + 1
  else q + q % 2

/-- The digits of a number, with zeros in front up to a least count. -/
def padded (least n : Nat) : String :=
  let digits := toString n
  String.ofList (List.replicate (least - digits.length) '0') ++ digits

/-- The number `n / 10 ^ places`, with exactly that many digits after the point. -/
def withPoint (places n : Nat) : String :=
  if places = 0 then toString n
  else toString (n / Nat.pow 10 places) ++ "." ++ padded places (n % Nat.pow 10 places)

end Unmask.Decimal
