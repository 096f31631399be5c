import Concord.Decimal.Read
import Concord.Pattern.Bracket

/-!
# Reading patterns

`Pattern.read?` reads a written pattern, if it is one. The reader keeps a stack of open groups and
takes one step per part. Groups are numbered from one on in the order in which they open, and a
switch holds up to the end of its group. The height of a pattern counts the groups, repetitions,
sequences, alternatives and brackets that lie around its innermost part; a pattern may not be
higher than `heightLimit`.
-/

namespace Concord.Pattern

/-- A part of a pattern as it was written, with its height. -/
structure Part where
  pattern : Pattern
  height : Nat := 0
  /-- The part can be repeated. A switch cannot. -/
  repeatable : Bool := true
deriving Repr

namespace Part

/-- The height of several parts in one. -/
def heightOf (parts : List Part) : Nat :=
  match parts with
  | [] => 0
  | [p] => p.height
  | parts => parts.foldl (fun h p => max h p.height) 0 + 1

/-- One part after the other. -/
def sequence (parts : List Part) : Part where
  pattern := Pattern.sequence (parts.map (·.pattern))
  height := heightOf parts

/-- One part or another. -/
def alternatives (parts : List Part) : Part where
  pattern := Pattern.alternatives (parts.map (·.pattern))
  height := heightOf parts

/-- Repetitions of a part. -/
def repeated (least : Nat) (most : Option Nat) (greedy : Bool) (p : Part) : Part where
  pattern := Pattern.repeated least most greedy p.pattern
  height := p.height + 1

/-- A group, which remembers its match if it has a number. -/
def group (index : Option Nat) (p : Part) : Part where
  pattern := match index with
    | some index => .group index p.pattern
    | none => p.pattern
  height := p.height + 1

end Part

/-- What has been read of a group: the alternatives before the last bar and the parts after it,
latest first. -/
structure Draft where
  alternatives : List Part := []
  parts : List Part := []
deriving Repr

namespace Draft

/-- Adds a part. -/
def push (d : Draft) (p : Part) : Draft := { d with parts := p :: d.parts }

/-- Starts a new alternative. -/
def bar (d : Draft) : Draft :=
  { alternatives := Part.sequence d.parts.reverse :: d.alternatives }

/-- The whole group. -/
def whole (d : Draft) : Part := Part.alternatives d.bar.alternatives.reverse

/-- Repeats the last part, if there is one to repeat. -/
def repeat? (d : Draft) (least : Nat) (most : Option Nat) (greedy : Bool) : Option Draft :=
  match d.parts with
  | [] => none
  | last :: before =>
    if last.repeatable then some { d with parts := last.repeated least most greedy :: before }
    else none

end Draft

/-- A group that is open around the place of reading. -/
structure OpenGroup where
  draft : Draft
  /-- The number of the group, if it remembers its match. -/
  index : Option Nat
  /-- The switches to go back to. -/
  flags : Flags
deriving Repr

/-- The state of reading. -/
structure Reading where
  draft : Draft := {}
  flags : Flags := {}
  outer : List OpenGroup := []
  groups : Nat := 0
  names : List (List Char) := []
deriving Repr

/-! ## Repetitions -/

/-- Reads a bound of a repetition; blanks may stand around it. -/
def readBound? (f : Flags) (cs : List Char) : Option (Nat × List Char) :=
  let (digits, rest) := f.span Decimal.isDigit (cs.dropWhile Text.isBlank)
  if digits.isEmpty || UInt32.size ≤ digitsValue digits then none
  else some (digitsValue digits, f.skip (rest.dropWhile Text.isBlank))

/-- Reads the bounds of a repetition after its opening brace. -/
def readBounds? (f : Flags) (cs : List Char) : Option ((Nat × Option Nat) × List Char) :=
  match readBound? f (f.skip cs) with
  | some (least, '\x7d' :: rest) => some ((least, some least), rest)
  | some (least, ',' :: rest) =>
    match f.skip rest with
    | '\x7d' :: rest => some ((least, none), rest)
    | rest =>
      match readBound? f rest with
      | some (most, '\x7d' :: rest) =>
        if least ≤ most then some ((least, some most), rest) else none
      | _ => none
  | _ => none

/-! ## Groups -/

/-- The name of a group starts with a letter or an underscore. -/
def isNameStart (c : Char) : Bool := c = '_' || Text.isAlphabetic c

/-- Numbers, points and square brackets may follow in the name of a group. -/
def isNameChar (c : Char) : Bool :=
  isNameStart c || Text.isNumeric c || c = '.' || c = '[' || c = ']'

/-- Reads the name of a group up to the angle bracket that closes it. -/
def readName? (cs : List Char) : Option (List Char × List Char) :=
  match cs.takeWhile (· ≠ '>'), cs.dropWhile (· ≠ '>') with
  | first :: others, _ :: rest =>
    if isNameStart first && others.all isNameChar then some (first :: others, rest) else none
  | _, _ => none

/-- What stands at the start of a group. -/
inductive Opening where
  /-- A group that remembers its match, and maybe has a name. -/
  | capture (name : Option (List Char))
  /-- A group that remembers nothing, with changed switches. -/
  | plain (letters : List (Char × Bool))
  /-- No group at all, but changed switches for the rest of the group around it. -/
  | switch (letters : List (Char × Bool))
deriving Repr, DecidableEq

/-- Reads what stands at the start of a group. Looks beyond the next character are not
supported. -/
def readOpening? : List Char → Option (Opening × List Char)
  | '?' :: '=' :: _ | '?' :: '!' :: _ | '?' :: '<' :: '=' :: _ | '?' :: '<' :: '!' :: _ => none
  | '?' :: 'P' :: '<' :: rest | '?' :: '<' :: rest =>
    (readName? rest).map fun (name, rest) => (.capture (some name), rest)
  | '?' :: rest =>
    match readSwitches? true [] rest with
    | some (letters, ':' :: rest) => some (.plain letters, rest)
    | some (letters, ')' :: rest) => if letters.isEmpty then none else some (.switch letters, rest)
    | _ => none
  | rest => some (.capture none, rest)

/-! ## Steps -/

namespace Reading

/-- Adds a part to the innermost group. -/
def push (r : Reading) (p : Part) : Reading := { r with draft := r.draft.push p }

/-- Opens a group. -/
def openGroup (r : Reading) (index : Option Nat) (flags : Flags) : Reading :=
  { r with draft := {}, flags, outer := ⟨r.draft, index, r.flags⟩ :: r.outer }

/-- Opens a group or changes switches. No two groups have one name. -/
def open? (r : Reading) : Opening → Option Reading
  | .capture name =>
    if name.any r.names.contains then none
    else
      let index := r.groups + 1
      some (({ r with groups := index, names := name.toList ++ r.names }).openGroup
        (some index) r.flags)
  | .plain letters => some (r.openGroup none (r.flags.update letters))
  | .switch letters =>
    let r := { r with flags := r.flags.update letters }
    some (r.push { pattern := .empty, repeatable := false })

/-- Closes the innermost group, if one is open. -/
def close? (r : Reading) : Option Reading :=
  match r.outer with
  | [] => none
  | g :: outer =>
    some { r with draft := g.draft.push (r.draft.whole.group g.index), flags := g.flags, outer }

/-- Repeats the last part. A question mark makes the repetition reluctant. -/
def repeat? (r : Reading) (least : Nat) (most : Option Nat) (rest : List Char) :
    Option (Reading × List Char) :=
  let (greedy, rest) := match rest with
    | '?' :: rest => (false, rest)
    | _ => (true, rest)
  (r.draft.repeat? least most (greedy != r.flags.swapGreed)).map fun draft =>
    ({ r with draft }, rest)

/-- Adds a pattern to the innermost group, if there is one, and goes on. -/
def pushed (r : Reading) (rest : List Char) (p : Option Pattern) : Option (Reading × List Char) :=
  p.map fun pattern => (r.push { pattern }, rest)

/-- Reads the part that starts with `c`. -/
def step? (r : Reading) (c : Char) (rest : List Char) : Option (Reading × List Char) :=
  match c with
  | '(' => (readOpening? (r.flags.skip rest)).bind fun (opening, rest) =>
    (r.open? opening).map (·, rest)
  | ')' => r.close?.map (·, rest)
  | '|' => some ({ r with draft := r.draft.bar }, rest)
  | '?' => r.repeat? 0 (some 1) rest
  | '*' => r.repeat? 0 none rest
  | '+' => r.repeat? 1 none rest
  | '\x7b' => (readBounds? r.flags rest).bind fun ((least, most), rest) =>
    r.repeat? least most (r.flags.skip rest)
  | '[' => (readClass? r.flags rest).map fun (cls, rest) =>
    (r.push { pattern := ofSet cls.set, height := cls.height }, rest)
  | '\\' => (readEscape? r.flags rest).bind fun (escape, rest) =>
    r.pushed rest (match escape with
      | .char c => r.flags.char? c
      | .set set => some (ofSet set)
      | .look l => some (.look l))
  | '.' => r.pushed rest r.flags.dot?
  | '^' => r.pushed rest (some (.look r.flags.start))
  | '$' => r.pushed rest (some (.look r.flags.finish))
  | c => r.pushed rest (r.flags.char? c)

/-- Reads all parts, at most `fuel` of them. -/
def run? : Nat → Reading → List Char → Option Part
  | fuel, r, cs =>
    match fuel, r.flags.skip cs with
    | _, [] => if r.outer.isEmpty then some r.draft.whole else none
    | 0, _ :: _ => none
    | fuel + 1, c :: rest =>
      match r.step? c rest with
      | none => none
      | some (r, rest) => run? fuel r rest

end Reading

/-- How high a pattern may be. -/
def heightLimit : Nat := 250

/-- The pattern that a text describes, if it describes one. -/
def read? (cs : List Char) : Option Pattern :=
  match ({} : Reading).run? cs.length cs with
  | none => none
  | some whole => if whole.height ≤ heightLimit then some whole.pattern else none

end Concord.Pattern
