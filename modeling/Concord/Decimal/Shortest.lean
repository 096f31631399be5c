/-!
# Shortest decimal digits of a double

A positive finite double is `m · 2 ^ q`. Every real strictly between the midpoints to its two
neighbours reads back as that double, and the midpoints themselves do when `m` is even.
`shortest` is the decimal with the fewest digits in that interval, and of those the nearest to
the double; which of two equally near ones is left to the caller.
-/

namespace Concord.Shortest

/-- A positive real `num / den`. -/
structure Ratio where
  num : Nat
  den : Nat
deriving Repr, DecidableEq

namespace Ratio

/-- `r ≤ s`, by cross multiplication. -/
def le (r s : Ratio) : Bool := r.num * s.den ≤ s.num * r.den

/-- `r < s`, by cross multiplication. -/
def lt (r s : Ratio) : Bool := r.num * s.den < s.num * r.den

/-- `n · 2 ^ e`. -/
def scale2 (n : Nat) (e : Int) : Ratio :=
  if e < 0 then ⟨n, Nat.pow 2 e.natAbs⟩ else ⟨n * Nat.pow 2 e.natAbs, 1⟩

/-- `n · 10 ^ e`. -/
def scale10 (n : Nat) (e : Int) : Ratio :=
  if e < 0 then ⟨n, Nat.pow 10 e.natAbs⟩ else ⟨n * Nat.pow 10 e.natAbs, 1⟩

/-- The integer part of `r / 10 ^ e`. -/
def floorDiv10 (r : Ratio) (e : Int) : Nat :=
  let power := Nat.pow 10 e.natAbs
  if e < 0 then r.num * power / r.den else r.num / (r.den * power)

end Ratio

/-- A double together with the interval of reals that read back as it. -/
structure Interval where
  value : Ratio
  low : Ratio
  high : Ratio
  closed : Bool
deriving Repr

namespace Interval

/-- `r` reads back as the double. -/
def has (i : Interval) (r : Ratio) : Bool :=
  if i.closed then i.low.le r && r.le i.high else i.low.lt r && r.lt i.high

/-- The interval of the positive double with these bits. The neighbour below a power of two is
half as far away as the one above. -/
def ofBits (bits : Nat) : Interval :=
  let hidden := Nat.pow 2 52
  let biased := bits / hidden % Nat.pow 2 11
  let fraction := bits % hidden
  let m := if biased = 0 then fraction else hidden + fraction
  let q : Int := (if biased = 0 then 1 else biased : Nat) - 1075
  let below := if fraction = 0 && 1 < biased then Ratio.scale2 (4 * m - 1) (q - 2)
    else Ratio.scale2 (2 * m - 1) (q - 1)
  { value := .scale2 m q, low := below, high := .scale2 (2 * m + 1) (q - 1),
    closed := m % 2 == 0 }

/-- The number of digits before the decimal point of the value, negative for as many zeros after
it: the value lies in `[10 ^ (k - 1), 10 ^ k)`. The search starts from the number of binary
digits and steps down. -/
def magnitude (i : Interval) : Int :=
  let bits : Int := (Nat.log2 i.value.num : Int) - Nat.log2 i.value.den
  let start : Int := bits * 30103 / 100000 + 2
  descend 5 start
where
  /-- Steps down from an upper bound while the bound one lower still holds. -/
  descend : Nat → Int → Int
    | 0, k => k
    | n + 1, k => if i.value.lt (.scale10 1 (k - 1)) then descend n (k - 1) else k

/-- A multiple of `10 ^ exponent` that reads back as the double: the nearer of the value's two
neighbours on that grid. On a tie it is the even one if `tieToEven` holds, else the upper one. -/
def onGrid? (i : Interval) (tieToEven : Bool) (exponent : Int) : Option Nat :=
  let low := i.value.floorDiv10 exponent
  let high := low + 1
  let lowHit := 0 < low && i.has (.scale10 low exponent)
  let highHit := i.has (.scale10 high exponent)
  let middle := Ratio.scale10 (2 * low + 1) exponent
  let twice : Ratio := ⟨2 * i.value.num, i.value.den⟩
  let lowNearer := twice.lt middle || (tieToEven && low % 2 == 0 && twice.le middle)
  if lowHit && highHit then some (if lowNearer then low else high)
  else if lowHit then some low
  else if highHit then some high
  else none

/-- The digits and exponent of the first grid with a hit, from the coarsest on. -/
def search (i : Interval) (tieToEven : Bool) (k : Int) : Nat → Nat → Nat × Int
  | 0, n => (i.value.floorDiv10 (k - n), k - n)
  | fuel + 1, n =>
    match i.onGrid? tieToEven (k - n) with
    | some digits => (digits, k - n)
    | none => search i tieToEven k fuel (n + 1)

end Interval

/-- Moves zeros at the end of `digits` into the exponent. -/
def dropZeros : Nat → Nat × Int → Nat × Int
  | 0, r => r
  | fuel + 1, (digits, e) =>
    if 0 < digits && digits % 10 = 0 then dropZeros fuel (digits / 10, e + 1) else (digits, e)

/-- The shortest decimal `digits · 10 ^ exponent` that reads back as the positive finite double
with these bits. Seventeen digits always suffice. The upper neighbour of a run of nines is a
power of ten, hence the zeros to drop. -/
def shortest (tieToEven : Bool) (bits : Nat) : Nat × Int :=
  let i := Interval.ofBits bits
  dropZeros 17 (i.search tieToEven i.magnitude 17 1)

end Concord.Shortest
