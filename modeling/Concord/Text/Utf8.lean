import Concord.Text.Ranges

/-!
# Characters as bytes

In UTF-8 a character of more than seven bits is written as a lead byte and up to three bytes of
six bits each. `byteRanges` cuts a set of characters into sequences of byte ranges: the
characters of one sequence are those that take each of their bytes from the range at that place.
-/

namespace Concord.Text

/-- Sequences of ranges of digits, the highest digit first. -/
abbrev DigitRanges := List (List (Nat × Nat))

/-- The numbers from `first` to `last` as sequences of ranges of digits: the highest, and below it
`k` digits of six bits each. A sequence stands for all choices of a digit from each of its ranges,
and the sequences are in ascending order. -/
def digitRanges : Nat → Nat → Nat → DigitRanges
  | 0, first, last => [[(first, last)]]
  | k + 1, first, last =>
    let block := Nat.pow 64 (k + 1)
    let a := first / block
    let b := last / block
    if a = b then (digitRanges k (first % block) (last % block)).map ((a, a) :: ·)
    else
      let head := if first % block = 0 then []
        else (digitRanges k (first % block) (block - 1)).map ((a, a) :: ·)
      let tail := if last % block = block - 1 then []
        else (digitRanges k 0 (last % block)).map ((b, b) :: ·)
      let a := if first % block = 0 then a else a + 1
      let b := if last % block = block - 1 then b else b - 1
      let middle := if a ≤ b then [(a, b) :: List.replicate (k + 1) (0, 63)] else []
      head ++ middle ++ tail

/-- The code points of characters by the number of bytes behind the lead byte, with what is added
to the highest digit to make the lead byte. -/
def byteBlocks : List (Nat × Nat × Nat × Nat) :=
  [(0, 0x7f, 0, 0), (0x80, 0x7ff, 1, 0xc0), (0x800, 0xd7ff, 2, 0xe0), (0xe000, 0xffff, 2, 0xe0),
    (0x10000, lastCode, 3, 0xf0)]

/-- The bytes of a sequence of digits. -/
def bytesOfDigits (lead : Nat) : List (Nat × Nat) → List (Nat × Nat)
  | [] => []
  | (a, b) :: rest => (a + lead, b + lead) :: rest.map fun (a, b) => (a + 0x80, b + 0x80)

/-- The characters of a set as sequences of byte ranges, in ascending order. -/
def Ranges.byteRanges (ranges : Ranges) : List (List (Nat × Nat)) :=
  ranges.flatMap fun (first, last) => byteBlocks.flatMap fun (low, high, k, lead) =>
    if max first low ≤ min last high then
      (digitRanges k (max first low) (min last high)).map (bytesOfDigits lead)
    else []

/-- The number of bytes of a text. -/
def byteCount (cs : List Char) : Nat := cs.foldl (fun n c => n + c.utf8Size) 0

end Concord.Text
