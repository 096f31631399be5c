import Concord.Pattern.Parse
import Concord.Text.Utf8
import Std.Data.HashMap

/-!
# The weight of patterns

A pattern is worked off over bytes, by one automaton that reads a text forwards and one that reads
it backwards. `Pattern.fits` says that neither of them takes more room than `roomLimit`. Each state
takes the same room; a state that reads one of several byte ranges takes more for each of them, and
so does a choice for each of its ways. Repetitions are written out, which is what makes patterns
heavy: as soon as there is no more room, counting stops.

States that read the same bytes to the same end are shared within a set of characters: forwards
all of them, and backwards those in a memory of a thousand places, where a state drives out the one
that held its place before.
-/

namespace Concord.Pattern

/-- The room that an automaton may take, in bytes. -/
def roomLimit : Nat := 10 * 1024 * 1024

/-- The room that each state takes. -/
def stateRoom : Nat := 32

/-- The room that a byte range of a state takes. -/
def rangeRoom : Nat := 8

/-- The room that a way of a choice takes. -/
def wayRoom : Nat := 4

/-- How many states an automaton has so far, and how much room it takes. -/
structure Weight where
  states : Nat := 0
  room : Nat := 0
deriving Repr, DecidableEq

namespace Weight

/-- Adds states, and room besides. Nothing if there is not enough room. -/
def add? (states room : Nat) (w : Weight) : Option Weight :=
  let room := w.room + states * stateRoom + room
  if room ≤ roomLimit then some { states := w.states + states, room } else none

/-- Does something a number of times, as long as there is room. -/
def repeat? (f : Weight → Option Weight) : Nat → Weight → Option Weight
  | 0, w => some w
  | n + 1, w =>
    match f w with
    | none => none
    | some w => repeat? f n w

end Weight

/-! ## Sets of characters, forwards -/

/-- A state that reads one of several byte ranges, each with the number of the state behind it. -/
abbrev ByteState := List ((Nat × Nat) × Nat)

/-- The states of an automaton for a set, with their numbers. -/
abbrev ByteStates := Std.HashMap ByteState Nat

/-- The number of a state, a new one if there is none like it. -/
def share (state : ByteState) (states : ByteStates) : Nat × ByteStates :=
  match states[state]? with
  | some n => (n, states)
  | none => (states.size + 1, states.insert state (states.size + 1))

/-- Neighbouring sequences with the same first range as one, with what follows it. -/
def byFirst : List (List (Nat × Nat)) → List ((Nat × Nat) × List (List (Nat × Nat)))
  | [] => []
  | [] :: rest => byFirst rest
  | (range :: tail) :: rest =>
    match byFirst rest with
    | (range', tails) :: more =>
      if range = range' then (range, tail :: tails) :: more
      else (range, [tail]) :: (range', tails) :: more
    | [] => [(range, [tail])]

/-- Adds the states of sequences of at most `k` byte ranges. The end has the number zero. -/
def shareAll : Nat → List (List (Nat × Nat)) → ByteStates → Nat × ByteStates
  | 0, _, states => (0, states)
  | k + 1, sequences, states =>
    if sequences.all List.isEmpty then (0, states)
    else
      let (state, states) := (byFirst sequences).foldl (fun (state, states) (range, tails) =>
        let (n, states) := shareAll k tails states
        (state ++ [(range, n)], states)) ([], states)
      share state states

/-- Adds a set of characters, forwards. -/
def weighForwards? (set : Text.Ranges) (w : Weight) : Option Weight :=
  let (_, states) := shareAll 4 set.byteRanges {}
  let ranges := states.fold (fun sum state _ => sum + state.length) 0
  w.add? (states.size + 1) (ranges * rangeRoom)

/-! ## Sets of characters, backwards -/

/-- A state that reads one byte range: the state behind it, the first byte and the last. -/
abbrev RangeState := Nat × Nat × Nat

/-- Stirs a number into a hash. -/
def stir (hash : UInt64) (n : Nat) : UInt64 := (hash ^^^ n.toUInt64) * 1099511628211

/-- The place of a state in the memory. -/
def RangeState.place (s : RangeState) : Nat :=
  (stir (stir (stir 14695981039346656037 s.1) s.2.1) s.2.2).toNat % 1000

/-- The states in memory by their places, and how many states there are. -/
structure Memory where
  states : Nat
  held : Std.HashMap Nat (RangeState × Nat) := {}

/-- The number of a state, a new one if it is not in memory. -/
def Memory.recall (m : Memory) (s : RangeState) : Nat × Memory :=
  match m.held[s.place]? with
  | some (s', n) =>
    if s = s' then (n, m)
    else (m.states, { states := m.states + 1, held := m.held.insert s.place (s, m.states) })
  | none => (m.states, { states := m.states + 1, held := m.held.insert s.place (s, m.states) })

/-- Adds the states of a sequence of byte ranges, the first of them before the end. -/
def Memory.addSequence (finish : Nat) (m : Memory) (sequence : List (Nat × Nat)) : Memory :=
  (sequence.foldl (fun (n, m) (first, last) => m.recall (n, first, last)) (finish, m)).2

/-- Adds a set of characters, backwards: a choice between its sequences, and their end. -/
def weighBackwards? (set : Text.Ranges) (w : Weight) : Option Weight :=
  let sequences := set.byteRanges
  let m := sequences.foldl (Memory.addSequence (w.states + 1)) { states := w.states + 2 }
  w.add? (m.states - w.states) (sequences.length * wayRoom)

/-! ## Patterns -/

/-- Adds a set of characters. One of ASCII takes a single state and an end. -/
def weighSet? (backwards : Bool) (set : Text.Ranges) (w : Weight) : Option Weight :=
  if set.isAscii then w.add? 2 (set.length * rangeRoom)
  else if backwards then weighBackwards? set w
  else weighForwards? set w

/-- Adds a pattern. Backwards groups take no room. -/
def weigh? (backwards : Bool) : Pattern → Weight → Option Weight
  | empty, w | look _, w => w.add? 1 0
  | text cs, w => w.add? (Text.byteCount cs) 0
  | chars set, w => weighSet? backwards set w
  | seq a b, w =>
    if backwards then (b.weigh? backwards w).bind (a.weigh? backwards)
    else (a.weigh? backwards w).bind (b.weigh? backwards)
  | alt a b, w =>
    ((a.weigh? backwards w).bind (b.weigh? backwards)).bind fun w =>
      match b with
      | alt _ _ => w.add? 0 wayRoom
      | _ => w.add? 2 (2 * wayRoom)
  | group _ p, w =>
    if backwards then p.weigh? backwards w
    else ((w.add? 1 0).bind (p.weigh? backwards)).bind (·.add? 1 0)
  | times 0 none _ p, w =>
    if p.isProductive then (w.add? 1 (2 * wayRoom)).bind (p.weigh? backwards)
    else (p.weigh? backwards w).bind (·.add? 3 (4 * wayRoom))
  | times (least + 1) none _ p, w =>
    (Weight.repeat? (p.weigh? backwards) (least + 1) w).bind (·.add? 1 (2 * wayRoom))
  | times least (some most) _ p, w =>
    let first := if least = 0 && most ≠ 1 then w.add? 1 0
      else Weight.repeat? (p.weigh? backwards) least w
    if least = most then first
    else
      (first.bind (·.add? 1 0)).bind
        (Weight.repeat? (fun w => (w.add? 1 (2 * wayRoom)).bind (p.weigh? backwards))
          (most - least))

/-- Every match starts at the start of the text, as can be seen from the looks in front. -/
def isHeld : Pattern → Bool
  | look l => l = .textStart
  | seq a b => a.isHeld || (a.longest = some 0 && b.isHeld)
  | alt a b => a.isHeld && b.isHeld
  | times least _ _ p => 0 < least && p.isHeld
  | group _ p => p.isHeld
  | empty | text _ | chars _ => false

/-- Every match ends at the end of the text, as can be seen from the looks at the back. -/
def isHeldBack : Pattern → Bool
  | look l => l = .textFinish
  | seq a b => b.isHeldBack || (b.longest = some 0 && a.isHeldBack)
  | alt a b => a.isHeldBack && b.isHeldBack
  | times least _ _ p => 0 < least && p.isHeldBack
  | group _ p => p.isHeldBack
  | empty | text _ | chars _ => false

/-- The weight of the automaton of a pattern. One that may start anywhere starts with a loop over
all bytes. Forwards the whole match is a group. -/
def weight? (backwards : Bool) (p : Pattern) : Option Weight :=
  let held := if backwards then p.isHeldBack else p.isHeld
  let start : Option Weight :=
    if held then ({} : Weight).add? 1 0 else ({} : Weight).add? 3 (2 * wayRoom + rangeRoom)
  (start.bind ((group 0 p).weigh? backwards)).bind (·.add? 1 0)

/-- The automata of the pattern are not too large. -/
def fits (p : Pattern) : Bool := (p.weight? false).isSome && (p.weight? true).isSome

/-- The pattern that a text describes, if it describes one that is not too large. -/
def ofText? (s : String) : Option Pattern := (read? s.toList).filter fits

end Concord.Pattern
