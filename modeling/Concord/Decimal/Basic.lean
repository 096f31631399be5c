/-!
# Decimal numbers

A written decimal number is a sign, a significand and a power of ten. `Decimal.toFloat` is the
double nearest to it.
-/

namespace Concord

/-- The number `± significand · 10 ^ exponent`. -/
structure Decimal where
  negative : Bool
  significand : Nat
  exponent : Int
deriving Repr, DecidableEq

namespace Decimal

/-- Where the first digit stands: the number is below `10 ^ magnitude`. -/
def magnitude (d : Decimal) : Int :=
  (Nat.toDigits 10 d.significand).length + d.exponent

/-- The double nearest to the unsigned number. Above `10 ^ 400` that is infinity and below
`10 ^ -400` it is zero, so no power of ten beyond those is ever formed. -/
def unsignedFloat (d : Decimal) : Float :=
  if d.significand = 0 then 0.0
  else if 400 < d.magnitude then 1.0 / 0.0
  else if d.magnitude < -400 then 0.0
  else Float.ofScientific d.significand (d.exponent < 0) d.exponent.natAbs

/-- The double nearest to the number; a negative zero keeps its sign. -/
def toFloat (d : Decimal) : Float :=
  if d.negative then -d.unsignedFloat else d.unsignedFloat

end Decimal

/-- The value of a run of the digits `0` to `9`, most significant first. -/
def digitsValue (digits : List Char) : Nat :=
  digits.foldl (fun n c => 10 * n + (c.toNat - '0'.toNat)) 0

end Concord
