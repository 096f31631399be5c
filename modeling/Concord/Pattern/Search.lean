import Concord.Pattern.Program

/-!
# Search

A thread is a state of a program at a place of a text. `explore` follows threads depth first, the
preferred way before the others, and follows no state twice at one place: what has been seen there
either came to nothing or is being followed already. So the work is bounded by the number of
states and places. `search?` explores from one place after the other and gives the first thread
that comes to the end of the pattern.
-/

namespace Concord.Pattern

/-- A state of a program at a place, with what was remembered on the way to it, latest first: for
each slot, what followed the place. -/
structure Thread where
  state : Nat
  place : Place
  marks : List (Nat × List Char) := []
deriving Repr, DecidableEq

/-- Which states have been seen at which places: for each state a word whose bit `n` says so for
the place behind `n` characters. -/
abbrev Seen := Array Nat

namespace Seen

/-- The state of the thread has been seen at its place. -/
def has (seen : Seen) (t : Thread) : Bool := (seen.getD t.state 0).testBit t.place.offset

/-- Adds the state of the thread at its place. -/
def add (seen : Seen) (t : Thread) : Seen :=
  seen.modify t.state (Nat.lor (Nat.shiftLeft 1 t.place.offset))

end Seen

namespace Program

/-- The thread has come to the end of the pattern. -/
def isDone (p : Program) (t : Thread) : Bool := p.steps[t.state]? = some .accept

/-- The threads that a thread goes on to, the preferred one first. -/
def follow (p : Program) (t : Thread) : List Thread :=
  match p.steps[t.state]? with
  | some (.take set next) =>
    match t.place.rest with
    | c :: rest =>
      if set.has c then [{ t with state := next, place := t.place.after c rest }] else []
    | [] => []
  | some (.look l next) => if l.holds t.place then [{ t with state := next }] else []
  | some (.mark slot next) =>
    [{ t with state := next, marks := (slot, t.place.rest) :: t.marks }]
  | some (.choice ways) => ways.map fun state => { t with state }
  | some .accept | none => []

/-- Follows threads in order, at most `fuel` of them, up to the first that is done. -/
def explore (p : Program) : Nat → Seen → List Thread → Option Thread × Seen
  | 0, seen, _ | _, seen, [] => (none, seen)
  | fuel + 1, seen, t :: rest =>
    if seen.has t then p.explore fuel seen rest
    else if p.isDone t then (some t, seen)
    else p.explore fuel (seen.add t) (p.follow t ++ rest)

/-- The number of threads that can come up in a text of `n` characters. -/
def bound (p : Program) (n : Nat) : Nat :=
  (p.steps.foldl (fun sum step => sum + step.ways) 0 + 1) * (n + 1) + 1

/-- The first thread that is done, from a place on whose rest is given once more. -/
def searchFrom (p : Program) (fuel : Nat) : Seen → Place → List Char → Option Thread
  | seen, place, [] => (p.explore fuel seen [⟨p.start, place, []⟩]).1
  | seen, place, c :: rest =>
    match p.explore fuel seen [⟨p.start, place, []⟩] with
    | (some found, _) => some found
    | (none, seen) => p.searchFrom fuel seen (place.after c rest) rest

/-- The end of the preferred match at the leftmost place of a text. -/
def search? (p : Program) (text : List Char) : Option Thread :=
  p.searchFrom (p.bound text.length) (Array.replicate p.steps.size 0) { rest := text } text

end Program

/-- What a group took on the way of a thread. -/
def Thread.captured? (t : Thread) (index : Nat) : Option (List Char) :=
  match t.marks.lookup (Program.startSlot index), t.marks.lookup (Program.finishSlot index) with
  | some start, some finish => some (start.take (start.length - finish.length))
  | _, _ => none

/-- What a group took in the preferred match at the leftmost place of a text. -/
def captured? (p : Pattern) (index : Nat) (text : List Char) : Option (List Char) :=
  (p.program.search? text).bind (·.captured? index)

end Concord.Pattern
