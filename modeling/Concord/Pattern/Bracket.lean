import Concord.Pattern.Escape

/-!
# Classes in brackets

A bracket lists characters, ranges, classes and other brackets. Its items form a set; two sets of
items may be joined by an operator, from left to right. The height of a class counts the brackets,
operators and lists of two or more items that lie around its innermost item.
-/

namespace Concord.Pattern

/-- Operators between sets. -/
inductive SetOp where
  | inter
  | diff
  | symmDiff
deriving Repr, DecidableEq

/-- Joins two sets. -/
def SetOp.apply : SetOp → Text.Ranges → Text.Ranges → Text.Ranges
  | inter, a, b => a.inter b
  | diff, a, b => a.diff b
  | symmDiff, a, b => a.symmDiff b

/-- A set of characters as it was written, with its height. -/
structure ClassTerm where
  set : Text.Ranges := []
  height : Nat := 0
deriving Repr, DecidableEq

/-- The items that have been read of a set. -/
structure Items where
  count : Nat := 0
  all : ClassTerm := {}
deriving Repr, DecidableEq

namespace Items

/-- Adds an item. -/
def add (items : Items) (item : ClassTerm) : Items where
  count := items.count + 1
  all := ⟨items.all.set.union item.set, max items.all.height item.height⟩

/-- The items as one set. -/
def term (items : Items) : ClassTerm :=
  if 2 ≤ items.count then { items.all with height := items.all.height + 1 } else items.all

end Items

/-- A bracket that is open around the place of reading. -/
structure Bracket where
  negated : Bool := false
  /-- What stands before the last operator. -/
  left : Option (ClassTerm × SetOp) := none
  items : Items := {}
deriving Repr, DecidableEq

namespace Bracket

/-- Adds an item. -/
def add (b : Bracket) (item : ClassTerm) : Bracket := { b with items := b.items.add item }

/-- All that has been read of the bracket. -/
def term (f : Flags) (b : Bracket) : ClassTerm :=
  match b.left with
  | none => b.items.term
  | some (left, op) =>
    let right := b.items.term
    ⟨op.apply (f.widen left.set) (f.widen right.set), max left.height right.height + 1⟩

/-- Goes on behind an operator. -/
def operator (f : Flags) (b : Bracket) (op : SetOp) : Bracket :=
  { b with left := some (b.term f, op), items := {} }

/-- The whole bracket. -/
def close? (f : Flags) (b : Bracket) : Option ClassTerm :=
  let term := b.term f
  (f.finish? b.negated term.set).map (⟨·, term.height + 1⟩)

/-- Reads what opens a bracket. Hyphens at its start stand for themselves, and so does a closing
bracket. -/
def read? (f : Flags) (cs : List Char) : Option (Bracket × List Char) :=
  let cs := f.skip cs
  let (negated, cs) := match cs with
    | '^' :: rest => (true, f.skip rest)
    | _ => (false, cs)
  let (hyphens, cs) := f.span (· = '-') cs
  let b := hyphens.foldl (fun b c => b.add ⟨.single c, 0⟩) { negated }
  match hyphens, cs with
  | _, [] => none
  | [], ']' :: rest => some (b.add ⟨.single ']', 0⟩, rest)
  | _, cs => some (b, cs)

end Bracket

/-- Reads a class of ASCII with a name after its opening bracket. -/
def readAsciiClass? : List Char → Option ((Bool × Text.Ranges) × List Char)
  | ':' :: cs =>
    let (negated, cs) := match cs with
      | '^' :: rest => (true, rest)
      | _ => (false, cs)
    match cs.dropWhile (· ≠ ':') with
    | ':' :: ']' :: rest =>
      (asciiClass? (String.ofList (cs.takeWhile (· ≠ ':')))).map fun set => ((negated, set), rest)
    | _ => none
  | _ => none

/-- Reads a character or an escape inside a bracket. -/
def readItem? (f : Flags) : List Char → Option (Escape × List Char)
  | [] => none
  | '\\' :: rest => readEscape? f rest
  | c :: rest => some (.char c, rest)

/-- A range of characters. Where classes are those of ASCII only, so are its ends. -/
def rangeOf? (f : Flags) (a b : Char) : Option Text.Ranges :=
  if b < a || (!f.unicode && 0x80 ≤ b.toNat) then none else some [(a.toNat, b.toNat)]

/-- The set of an item. -/
def itemSet? (f : Flags) : Escape → Option Text.Ranges
  | .char c => rangeOf? f c c
  | .set set => some set
  | .look _ => none

/-- Reads an item inside a bracket, or a range of two. A hyphen before the closing bracket or
another hyphen makes no range. -/
def readRange? (f : Flags) (cs : List Char) : Option (Text.Ranges × List Char) :=
  match readItem? f cs with
  | none => none
  | some (first, rest) =>
    match f.skip rest with
    | '-' :: after =>
      match f.skip after with
      | ']' :: _ | '-' :: _ => (itemSet? f first).map (·, '-' :: after)
      | after =>
        match first, readItem? f after with
        | .char a, some (.char b, rest) => (rangeOf? f a b).map (·, rest)
        | _, _ => none
    | rest => (itemSet? f first).map (·, rest)

/-- Reads the rest of nested brackets, at most `fuel` items. -/
def readBrackets? (f : Flags) :
    Nat → List Bracket → Bracket → List Char → Option (ClassTerm × List Char)
  | 0, _, _, _ => none
  | fuel + 1, outer, b, cs =>
    match f.skip cs with
    | [] => none
    | ']' :: rest =>
      match b.close? f, outer with
      | none, _ => none
      | some term, [] => some (term, rest)
      | some term, b :: outer => readBrackets? f fuel outer (b.add term) rest
    | '[' :: rest =>
      match readAsciiClass? rest, Bracket.read? f rest with
      | some ((negated, set), rest), _ =>
        match f.finish? negated set with
        | none => none
        | some set => readBrackets? f fuel outer (b.add ⟨set, 0⟩) rest
      | none, some (inner, rest) => readBrackets? f fuel (b :: outer) inner rest
      | none, none => none
    | '&' :: '&' :: rest => readBrackets? f fuel outer (b.operator f .inter) rest
    | '-' :: '-' :: rest => readBrackets? f fuel outer (b.operator f .diff) rest
    | '~' :: '~' :: rest => readBrackets? f fuel outer (b.operator f .symmDiff) rest
    | cs =>
      match readRange? f cs with
      | none => none
      | some (set, rest) => readBrackets? f fuel outer (b.add ⟨set, 0⟩) rest

/-- Reads a class after its opening bracket. -/
def readClass? (f : Flags) (cs : List Char) : Option (ClassTerm × List Char) :=
  match Bracket.read? f cs with
  | none => none
  | some (b, rest) => readBrackets? f (cs.length + 1) [] b rest

end Concord.Pattern
