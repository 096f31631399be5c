/-!
# Character ranges

A set of characters is given by the closed ranges of code points in it. A list of ranges is in
order when the ranges ascend and no two of them touch; `insert`, `union`, `inter`, `diff` and
`complement` keep the order, so that one set has one list. The code points of surrogates belong
to no character: the ranges on both sides of them touch.
-/

namespace Concord.Text

/-- Closed ranges of code points, first and last, in ascending order. -/
abbrev Ranges := List (Nat × Nat)

/-- The last code point. -/
def lastCode : Nat := 0x10ffff

/-- The code point of the next character. -/
def codeAfter (n : Nat) : Nat := if n = 0xd7ff then 0xe000 else n + 1

/-- The code point of the character before. -/
def codeBefore (n : Nat) : Nat := if n = 0xe000 then 0xd7ff else n - 1

namespace Ranges

/-- Code point `n` lies in one of the ranges. -/
def hasCode (ranges : Ranges) (n : Nat) : Bool :=
  ranges.any fun (first, last) => first ≤ n && n ≤ last

/-- `c` lies in one of the ranges. -/
def has (ranges : Ranges) (c : Char) : Bool := ranges.hasCode c.toNat

/-- One character. -/
def single (c : Char) : Ranges := [(c.toNat, c.toNat)]

/-- All characters. -/
def everything : Ranges := [(0, lastCode)]

/-- The ranges of both lists by where they start. -/
def interleave : Ranges → Ranges → Ranges
  | [], b => b
  | (first, last) :: a, b =>
    b.takeWhile (·.1 < first) ++ (first, last) :: interleave a (b.dropWhile (·.1 < first))

/-- Makes one range of ranges that touch, beginning with the one from `first` to `last`. -/
def joinFrom (first last : Nat) : Ranges → Ranges
  | [] => [(first, last)]
  | (a, b) :: rest =>
    if a ≤ codeAfter last then joinFrom first (max last b) rest
    else (first, last) :: joinFrom a b rest

/-- Makes one range of ranges that touch. -/
def join : Ranges → Ranges
  | [] => []
  | (first, last) :: rest => joinFrom first last rest

/-- The characters of both sets. -/
def union (a b : Ranges) : Ranges := (a.interleave b).join

/-- Adds the code points from `first` to `last`. -/
def insert (ranges : Ranges) (first last : Nat) : Ranges := ranges.union [(first, last)]

/-- The characters that the two sets share. -/
def inter (a b : Ranges) : Ranges :=
  a.flatMap fun (first, last) => b.filterMap fun (first', last') =>
    if max first first' ≤ min last last' then some (max first first', min last last') else none

/-- What lies between the ranges, from code point `start` on. -/
def gaps (start : Nat) : Ranges → Ranges
  | [] => if start ≤ lastCode then [(start, lastCode)] else []
  | (first, last) :: rest =>
    if start < first then (start, codeBefore first) :: gaps (codeAfter last) rest
    else gaps (codeAfter last) rest

/-- All other characters. -/
def complement (ranges : Ranges) : Ranges := ranges.gaps 0

/-- The characters of `a` that are not in `b`. -/
def diff (a b : Ranges) : Ranges := a.inter b.complement

/-- The characters of one of the sets but not of both. -/
def symmDiff (a b : Ranges) : Ranges := (a.diff b).union (b.diff a)

/-- No character of the set has more than seven bits. -/
def isAscii (ranges : Ranges) : Bool := ranges.all (·.2 < 0x80)

end Ranges

end Concord.Text
