import Concord.Text.Classes

/-!
# Places in a text

A place lies between two characters of a text, or at one of its ends. A look says something about
a place and takes no character.
-/

namespace Concord.Pattern

/-- A place in a text: how many characters precede it, the last of them, if there is one, and what
follows it. -/
structure Place where
  offset : Nat := 0
  before : Option Char := none
  rest : List Char
deriving Repr, DecidableEq

/-- The place behind the next character. -/
def Place.after (place : Place) (c : Char) (rest : List Char) : Place :=
  { offset := place.offset + 1, before := some c, rest }

/-- How a place lies to the words around it. -/
inductive WordSide where
  /-- Between a word character and something else. -/
  | edge
  /-- Not at an edge. -/
  | noEdge
  /-- Where a word starts. -/
  | start
  /-- Where a word ends. -/
  | finish
  /-- Not behind a word character. -/
  | startHalf
  /-- Not before a word character. -/
  | finishHalf
deriving Repr, DecidableEq

/-- The relation between the character before a place and the one after it, by whether each of
them is a word character. -/
def WordSide.holds : WordSide → Bool → Bool → Bool
  | edge, before, after => before != after
  | noEdge, before, after => before == after
  | start, before, after => !before && after
  | finish, before, after => before && !after
  | startHalf, before, _ => !before
  | finishHalf, _, after => !after

/-- What may be asked of a place. -/
inductive Look where
  | textStart
  | textFinish
  /-- The start of a line, where lines end with a line feed. -/
  | lineStart
  | lineFinish
  /-- The start of a line, where lines end with a line feed, a carriage return, or both. -/
  | crlfStart
  | crlfFinish
  /-- The words may be those of ASCII only. -/
  | word (side : WordSide) (ascii : Bool)
deriving Repr, DecidableEq

/-- A word character of ASCII. -/
def isAsciiWord (c : Char) : Bool := c.isAlphanum || c = '_'

/-- The place is as asked. -/
def Look.holds (look : Look) (place : Place) : Bool :=
  let before := place.before
  let after := place.rest.head?
  match look with
  | textStart => before.isNone
  | textFinish => after.isNone
  | lineStart => before.isNone || before = some '\n'
  | lineFinish => after.isNone || after = some '\n'
  | crlfStart =>
    before.isNone || before = some '\n' || (before = some '\r' && after ≠ some '\n')
  | crlfFinish =>
    after.isNone || after = some '\r' || (after = some '\n' && before ≠ some '\r')
  | word side ascii =>
    let isWord := if ascii then isAsciiWord else Text.isWord
    side.holds (before.any isWord) (after.any isWord)

end Concord.Pattern
