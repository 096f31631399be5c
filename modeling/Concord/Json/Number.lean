import Concord.Json.Fault
import Concord.Json.Token

/-!
# Values of numbers

A number that is written as an integer and fits into sixty-four bits is one. All others are
doubles. Their digits are gathered into a word of sixty-four bits as long as there is room; the
word is rounded to a double and scaled by a power of ten. So a double is exact for short
numbers and can be off by a little for long ones.
-/

namespace Concord.Json

/-- The value of a number that is asked for. -/
inductive Number where
  | integer (i : Int)
  | float (x : Float)
deriving Repr

/-- A word with one digit more, if there is room for it. -/
def pushDigit? (word : Nat) (c : Char) : Option Nat :=
  let next := 10 * word + (c.toNat - '0'.toNat)
  if next < UInt64.size then some next else none

/-- Gathers the digits before the point. Those without room count as powers of ten. -/
def gatherWhole (word : Nat) : List Char → Nat × Int
  | [] => (word, 0)
  | c :: cs =>
    match pushDigit? word c with
    | some next => gatherWhole next cs
    | none => (word, (c :: cs).length)

/-- Gathers the digits after the point. Those without room do not count. -/
def gatherFraction (word : Nat) (exponent : Int) : List Char → Nat × Int
  | [] => (word, exponent)
  | c :: cs =>
    match pushDigit? word c with
    | some next => gatherFraction next (exponent - 1) cs
    | none => (word, exponent)

/-- The greatest power of ten that is a double. -/
def greatestPower : Nat := 308

/-- Scales a double by a power of ten, in steps when the power is too small for one double; a
few steps make zero of any double. Nothing if the result is too large for a double. -/
def scale : Nat → Float → Int → Option Float
  | 0, x, _ => some x
  | steps + 1, x, e =>
    if e.natAbs ≤ greatestPower then
      let power := Float.ofScientific 1 false e.natAbs
      if e < 0 then some (x / power)
      else if (x * power).isInf then none
      else some (x * power)
    else if x == 0.0 then some x
    else if e < 0 then
      scale steps (x / Float.ofScientific 1 false greatestPower) (e + greatestPower)
    else none

namespace Numeral

/-- The double that a number stands for. -/
def toFloat? (n : Numeral) : Option Float :=
  let (word, dropped) := gatherWhole 0 n.whole
  let (word, exponent) := gatherFraction word (dropped + n.exponent) n.fraction
  (scale 4 (Float.ofNat word) exponent).map fun x => if n.negative then -x else x

/-- A number written as an integer is one if it fits into sixty-four bits, signed when negative.
All others, and a negative zero, are doubles. -/
def value (n : Numeral) : Except Fault Number :=
  let i := digitsValue n.whole
  if n.integral && !n.negative && i < UInt64.size then .ok (.integer i)
  else if n.integral && n.negative && 0 < i && i ≤ UInt64.size / 2 then .ok (.integer (-i))
  else
    match n.toFloat? with
    | some x => .ok (.float x)
    | none => .error (.malformed .numberTooLarge)

end Numeral

end Concord.Json
