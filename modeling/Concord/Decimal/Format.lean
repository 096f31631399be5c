import Concord.Decimal.Shortest

/-!
# Written form of doubles

The digits of a double are the shortest ones that read back. A `FloatFormat` holds what is left
to decide: up to where the number is written out in positions, and how an exponent looks.
-/

namespace Concord

/-- How a double is written once its digits are known. -/
structure FloatFormat where
  /-- Numbers of at least `10 ^ (lowest - 1)` are written out in positions. -/
  lowest : Int
  /-- Numbers below `10 ^ highest` are written out in positions. -/
  highest : Int
  /-- An exponent that is not negative has a plus sign. -/
  plusSign : Bool
  /-- The least number of digits of an exponent. -/
  exponentWidth : Nat
  /-- Of two equally near shortest decimals the one with an even last digit is written, and not
  the larger one. -/
  tieToEven : Bool
deriving Repr, DecidableEq

namespace FloatFormat

/-- Zeros on the left up to a width. -/
def padLeft (width : Nat) (digits : List Char) : List Char :=
  List.replicate (width - digits.length) '0' ++ digits

/-- The exponent with its mark and sign. -/
def exponent (f : FloatFormat) (e : Int) : List Char :=
  let sign := if e < 0 then ['-'] else if f.plusSign then ['+'] else []
  'e' :: sign ++ padLeft f.exponentWidth (Nat.toDigits 10 e.natAbs)

/-- Digits whose first one stands at `10 ^ (k - 1)`, written out with at least one digit on
either side of the point. -/
def positional (digits : List Char) (k : Int) : List Char :=
  if k ≤ 0 then
    '0' :: '.' :: List.replicate k.natAbs '0' ++ digits
  else
    let whole := digits.take k.natAbs
    let rest := digits.drop k.natAbs
    whole ++ List.replicate (k.natAbs - whole.length) '0' ++ '.' ::
      (if rest.isEmpty then ['0'] else rest)

/-- Digits in front of an exponent. -/
def scientific (f : FloatFormat) (digits : List Char) (k : Int) : List Char :=
  let point := match digits.drop 1 with
    | [] => []
    | rest => '.' :: rest
  digits.take 1 ++ point ++ f.exponent (k - 1)

/-- The written form of a double. -/
def render (f : FloatFormat) (x : Float) : String :=
  if x.isNaN then "NaN"
  else
    let bits := x.toBits.toNat
    let magnitude := bits % (UInt64.size / 2)
    let body :=
      if x.isInf then ['i', 'n', 'f']
      else if magnitude = 0 then ['0', '.', '0']
      else
        let (n, e) := Shortest.shortest f.tieToEven magnitude
        let digits := Nat.toDigits 10 n
        let k : Int := digits.length + e
        if f.lowest ≤ k && k ≤ f.highest then positional digits k else f.scientific digits k
    String.ofList (if bits = magnitude then body else '-' :: body)

end FloatFormat

end Concord
