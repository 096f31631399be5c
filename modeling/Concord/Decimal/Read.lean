import Concord.Decimal.Basic

/-!
# Numbers written as one word

How a setting or an argument is read as a number: a sign, digits, and for doubles a fraction, an
exponent, or a name for infinity or not-a-number. Nothing may stand before or after.
-/

namespace Concord.Decimal

/-- `c` is one of `0` to `9`. -/
def isDigit (c : Char) : Bool := '0' ≤ c && c ≤ '9'

/-- A non-empty run of digits and nothing else. -/
def readDigits? (cs : List Char) : Option Nat :=
  if !cs.isEmpty && cs.all isDigit then some (digitsValue cs) else none

/-- A sign if there is one (`true` for minus), and what follows it. -/
def splitSign : List Char → Bool × List Char
  | '+' :: cs => (false, cs)
  | '-' :: cs => (true, cs)
  | cs => (false, cs)

/-- A natural number of at most `bound`; a plus sign may stand in front. -/
def readNat? (bound : Nat) (cs : List Char) : Option Nat :=
  let digits := match cs with
    | '+' :: rest => rest
    | _ => cs
  (readDigits? digits).filter (· ≤ bound)

/-- An integer between `low` and `high`; either sign may stand in front. -/
def readInt? (low high : Int) (cs : List Char) : Option Int :=
  let (negative, digits) := splitSign cs
  (readDigits? digits).bind fun n =>
    let i : Int := if negative then -n else n
    if low ≤ i && i ≤ high then some i else none

/-- An exponent after its mark, or nothing at all, which is exponent zero. -/
def readExponent? : List Char → Option Int
  | [] => some 0
  | c :: cs =>
    if c = 'e' || c = 'E' then
      let (negative, digits) := splitSign cs
      (readDigits? digits).map fun n => if negative then -n else n
    else none

/-- Digits with a point among them or at either end, at least one digit in all, then an
exponent. -/
def readUnsigned? (cs : List Char) : Option (Nat × Int) :=
  let whole := cs.takeWhile isDigit
  let afterWhole := cs.dropWhile isDigit
  let (fraction, rest) := match afterWhole with
    | '.' :: more => (more.takeWhile isDigit, more.dropWhile isDigit)
    | _ => ([], afterWhole)
  if whole.isEmpty && fraction.isEmpty then none
  else (readExponent? rest).map fun e => (digitsValue (whole ++ fraction), e - fraction.length)

/-- A double: a decimal number, or in any case `inf`, `infinity` or `nan`, each with either
sign in front. -/
def readFloat? (cs : List Char) : Option Float :=
  let (negative, body) := splitSign cs
  let name := String.ofList (body.map Char.toLower)
  if name = "inf" || name = "infinity" then
    some (if negative then -1.0 / 0.0 else 1.0 / 0.0)
  else if name = "nan" then some (0.0 / 0.0)
  else (readUnsigned? body).map fun (significand, exponent) =>
    Decimal.toFloat { negative, significand, exponent }

end Concord.Decimal
