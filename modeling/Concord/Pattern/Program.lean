import Concord.Pattern.Basic

/-!
# Programs

A program is a table of steps, each of which says where to go on. `Pattern.program` turns a
pattern into a program, from its end to its start: every part is given the state that follows it.
A choice lists where it may go on, the preferred way first. A pattern that may match without
taking a character is repeated once or more, and that is made optional: so a round that takes
nothing is tried in its turn, and not only when the loop is left.
-/

namespace Concord.Pattern

/-- A step of a program. -/
inductive Step where
  /-- Takes a character of the set. -/
  | take (set : Text.Ranges) (next : Nat)
  /-- Goes on if the place is as asked. -/
  | look (l : Look) (next : Nat)
  /-- Remembers the place under a number. -/
  | mark (slot : Nat) (next : Nat)
  /-- Goes on in one of several ways, the preferred one first. -/
  | choice (ways : List Nat)
  /-- The end of a match. -/
  | accept
deriving Repr, DecidableEq

/-- The number of ways in which a step goes on. -/
def Step.ways : Step → Nat
  | .take .. | .look .. | .mark .. => 1
  | .choice ways => ways.length
  | .accept => 0

/-- Steps, with the state to start in. -/
structure Program where
  steps : Array Step := #[]
  start : Nat := 0
deriving Repr, DecidableEq

namespace Program

/-- Puts a step in front. -/
def push (p : Program) (step : Step) : Program :=
  let start := p.steps.size
  { steps := p.steps.push step, start }

/-- Starts with another state. -/
def withStart (p : Program) (start : Nat) : Program := { p with start }

/-- A choice between going on with a state and leaving. -/
def goOn (greedy : Bool) (state leave : Nat) : Step :=
  .choice (if greedy then [state, leave] else [leave, state])

/-- The start of a group of this number is remembered under one slot, its end under another. -/
def startSlot (index : Nat) : Nat := 2 * index

/-- The slot of the end of a group. -/
def finishSlot (index : Nat) : Nat := 2 * index + 1

/-- Puts a loop in front: `body` again and again, once at least. The state of the choice between
another round and the end is known before the body, so that the body can lead to it. -/
def loop (p : Program) (greedy : Bool) (body : Program → Program) : Program :=
  let leave := p.start
  let turn := p.steps.size
  let q := body (p.push .accept)
  let again := goOn greedy q.start leave
  { q with steps := q.steps.setIfInBounds turn again }

/-- Puts a pattern in front. -/
def prepend : Pattern → Program → Program
  | .empty, p => p
  | .text cs, p => cs.foldr (fun c p => p.push (.take (Text.Ranges.single c) p.start)) p
  | .chars set, p => p.push (.take set p.start)
  | .look l, p => p.push (.look l p.start)
  | .seq a b, p => prepend a (prepend b p)
  | .alt a b, p =>
    let second := prepend b p
    let first := prepend a (second.withStart p.start)
    first.push (.choice [first.start, second.start])
  | .group index body, p =>
    let q := prepend body (p.push (.mark (finishSlot index) p.start))
    q.push (.mark (startSlot index) q.start)
  | .times least (some most) greedy body, p =>
    let leave := p.start
    let optional (q : Program) : Program :=
      let q := prepend body q
      q.push (goOn greedy q.start leave)
    Nat.repeat (prepend body) least (Nat.repeat optional (most - least) p)
  | .times 0 none greedy body, p =>
    let leave := p.start
    let turn := p.steps.size
    let q := p.loop greedy (prepend body)
    if body.isProductive then q.withStart turn
    else q.push (goOn greedy q.start leave)
  | .times (least + 1) none greedy body, p =>
    Nat.repeat (prepend body) least (p.loop greedy (prepend body))

end Program

/-- The program of a pattern. -/
def program (p : Pattern) : Program := Program.prepend p (({} : Program).push .accept)

end Concord.Pattern
