import Concord.Pattern.Basic
import Concord.Text.Classes
import Concord.Text.CaseFold

/-!
# Switches of written patterns

Switches change how the rest of a group is read: what a letter or a class stands for, what ends a
line, and whether blanks and comments are part of the pattern.
-/

namespace Concord.Pattern

/-- The switches that hold at a place of a written pattern. -/
structure Flags where
  ignoreCase : Bool := false
  /-- The marks of start and end stand for those of lines. -/
  multiLine : Bool := false
  /-- The point stands for the ends of lines too. -/
  dotAll : Bool := false
  /-- Repetitions are reluctant unless they are marked. -/
  swapGreed : Bool := false
  /-- Classes and case are those of all scripts, and not of ASCII only. -/
  unicode : Bool := true
  /-- A carriage return ends a line too. -/
  crlf : Bool := false
  /-- Blanks and comments do not count. -/
  verbose : Bool := false
deriving Repr, DecidableEq

namespace Flags

/-- Turns the switch of a letter on or off. Nothing for a letter that names none. -/
def set? (f : Flags) (on : Bool) : Char → Option Flags
  | 'i' => some { f with ignoreCase := on }
  | 'm' => some { f with multiLine := on }
  | 's' => some { f with dotAll := on }
  | 'U' => some { f with swapGreed := on }
  | 'u' => some { f with unicode := on }
  | 'R' => some { f with crlf := on }
  | 'x' => some { f with verbose := on }
  | _ => none

/-- Changes some switches. -/
def update (f : Flags) (letters : List (Char × Bool)) : Flags :=
  letters.foldl (fun f (c, on) => (f.set? on c).getD f) f

/-! ## Blanks and comments -/

/-- Drops blanks and comments, which go from a number sign to the end of the line. -/
def dropComments (inComment : Bool) : List Char → List Char
  | [] => []
  | c :: rest =>
    if inComment then dropComments (c ≠ '\n') rest
    else if c = '#' then dropComments true rest
    else if Text.isBlank c then dropComments false rest
    else c :: rest

/-- Drops what does not count. -/
def skip (f : Flags) (cs : List Char) : List Char := if f.verbose then dropComments false cs else cs

/-- The characters up to the first that does not satisfy `p`, without what does not count, and
the rest from there on. -/
def spanCounted (f : Flags) (p : Char → Bool) (inComment : Bool) :
    List Char → List Char × List Char
  | [] => ([], [])
  | c :: rest =>
    if inComment then f.spanCounted p (c ≠ '\n') rest
    else if f.verbose && c = '#' then f.spanCounted p true rest
    else if f.verbose && Text.isBlank c then f.spanCounted p false rest
    else if p c then
      let (taken, rest) := f.spanCounted p false rest
      (c :: taken, rest)
    else ([], c :: rest)

/-- The characters that satisfy `p`, without what does not count, and the rest behind them. -/
def span (f : Flags) (p : Char → Bool) (cs : List Char) : List Char × List Char :=
  f.spanCounted p false cs

/-! ## Sets and characters -/

/-- The rows of case folding under the switches. -/
def foldRows (f : Flags) : List Text.FoldRow :=
  if f.unicode then Text.foldRows else Text.asciiFoldRows

/-- A set as the switches have it. -/
def widen (f : Flags) (set : Text.Ranges) : Text.Ranges :=
  if f.ignoreCase then set.anyCase f.foldRows else set

/-- A set, or all other characters. Case is taken care of first. There are no other characters
where classes are those of ASCII only. -/
def finish? (f : Flags) (negated : Bool) (set : Text.Ranges) : Option Text.Ranges :=
  if negated then if f.unicode then some (f.widen set).complement else none
  else some (f.widen set)

/-- A character as the switches have it. A character beyond ASCII has no case variants where case
is that of ASCII only, and may then not be asked for without regard to case. -/
def char? (f : Flags) (c : Char) : Option Pattern :=
  if f.ignoreCase then
    if !f.unicode && 0x80 ≤ c.toNat then none
    else some (ofSet (Text.Ranges.ofCodes (Text.caseVariants f.foldRows c.toNat)))
  else some (.text [c])

/-- What the point stands for. It is always of all scripts. -/
def dot? (f : Flags) : Option Pattern :=
  if !f.unicode then none
  else if f.dotAll then some (.chars Text.Ranges.everything)
  else
    let ends := if f.crlf then Text.Ranges.ofCodes ['\n'.toNat, '\r'.toNat] else .single '\n'
    some (.chars ends.complement)

/-- What the mark of the start stands for. -/
def start (f : Flags) : Look :=
  if !f.multiLine then .textStart else if f.crlf then .crlfStart else .lineStart

/-- What the mark of the end stands for. -/
def finish (f : Flags) : Look :=
  if !f.multiLine then .textFinish else if f.crlf then .crlfFinish else .lineFinish

/-- How a place lies to words. -/
def word (f : Flags) (side : WordSide) : Look := .word side (!f.unicode)

end Flags

/-! ## Reading switches -/

/-- Reads the letters of switches, each of them turned on, or off after a minus. No letter may
come twice, and one has to follow the minus. -/
def readSwitches? (on : Bool) (letters : List (Char × Bool)) :
    List Char → Option (List (Char × Bool) × List Char)
  | [] => none
  | c :: rest =>
    if c = ':' || c = ')' then
      if !on && letters.all (·.2) then none else some (letters, c :: rest)
    else if c = '-' then
      if on then readSwitches? false letters rest else none
    else if letters.any (·.1 = c) || (({} : Flags).set? on c).isNone then none
    else readSwitches? on (letters ++ [(c, on)]) rest

end Concord.Pattern
