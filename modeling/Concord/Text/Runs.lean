import Concord.Text.Ranges

/-!
# Runs of code points

A property that sorts all code points into kinds is written as runs: from code point zero on,
the code of a kind and how many code points of it follow.
-/

namespace Concord.Text

/-- Runs of code points of one kind, from code point zero on. -/
abbrev Runs := List (List Char × Nat)

namespace Runs

/-- Reads one character behind the runs read so far, latest first. A capital starts the code of
the next run. -/
def push (runs : Runs) (c : Char) : Runs :=
  match runs with
  | [] => [([c], 0)]
  | (code, n) :: rest =>
    if c.isUpper then ([c], 0) :: runs
    else if c.isDigit then (code, 10 * n + (c.toNat - '0'.toNat)) :: rest
    else (code ++ [c], n) :: rest

/-- Reads written runs. The number of code points is left out where it is one. -/
def ofLines (lines : List String) : Runs :=
  ((lines.flatMap String.toList).foldl push []).reverse.map fun (code, n) => (code, max n 1)

/-- The ranges of the kinds that `p` selects, from code point `start` on; `first` is where a
range begins that is still open there. -/
def select (p : List Char → Bool) : Nat → Option Nat → Runs → Ranges
  | _, none, [] => []
  | start, some first, [] => [(first, start - 1)]
  | start, none, (code, n) :: rest =>
    if p code then select p (start + n) (some start) rest else select p (start + n) none rest
  | start, some first, (code, n) :: rest =>
    if p code then select p (start + n) (some first) rest
    else (first, start - 1) :: select p (start + n) none rest

/-- The ranges of the kinds that `p` selects. -/
def ranges (runs : Runs) (p : List Char → Bool) : Ranges := runs.select p 0 none

end Runs

/-- Reads ranges that are written as hexadecimal numbers, first and last with a hyphen between
them, and with a blank between two ranges. The other arguments are the ranges before, latest first,
the first number of the range, if it has been read, and the number at hand. -/
def readRanges : List Char → Ranges → Option Nat → Nat → Ranges
  | [], done, first, n => ((first.getD n, n) :: done).reverse
  | c :: rest, done, first, n =>
    if c = ' ' then readRanges rest ((first.getD n, n) :: done) none 0
    else if c = '-' then readRanges rest done (some n) 0
    else
      let digit := if c.isDigit then c.toNat - '0'.toNat else c.toNat - 'a'.toNat + 10
      readRanges rest done first (16 * n + digit)

/-- The ranges of written lines. -/
def Ranges.ofLines (lines : List String) : Ranges :=
  lines.flatMap fun line => readRanges line.toList [] none 0

end Concord.Text
