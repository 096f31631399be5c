import Concord.Pattern.Place

/-!
# Patterns

A pattern describes texts. Patterns are built by `ofSet`, `sequence`, `alternatives` and
`repeated`, which keep them in a normal form: a sequence holds no empty parts, no sequence and no
two texts next to each other; alternatives hold no alternatives, are a set of characters where
each of them is, and share no part at their starts where all of them are sequences.
-/

namespace Concord

open Pattern (Look)

/-- A description of texts. -/
inductive Pattern where
  | empty
  /-- The characters themselves. -/
  | text (cs : List Char)
  /-- One character of a set. Nothing is described by the empty set. -/
  | chars (set : Text.Ranges)
  | look (l : Look)
  | seq (a b : Pattern)
  | alt (a b : Pattern)
  /-- At least `least` and, if there is a bound, at most `most` repetitions. -/
  | times (least : Nat) (most : Option Nat) (greedy : Bool) (p : Pattern)
  /-- A group that remembers what it matched. -/
  | group (index : Nat) (p : Pattern)
deriving Repr, DecidableEq

namespace Pattern

/-! ## Lengths -/

/-- The least number of characters that a match takes. Nothing where a part of the pattern cannot
match at all. -/
def shortest : Pattern → Option Nat
  | empty | look _ => some 0
  | text cs => some cs.length
  | chars set => if set.isEmpty then none else some 1
  | seq a b =>
    match a.shortest, b.shortest with
    | some m, some n => some (m + n)
    | _, _ => none
  | alt a b =>
    match a.shortest, b.shortest with
    | some m, some n => some (min m n)
    | _, _ => none
  | times least _ _ p => p.shortest.map (least * ·)
  | group _ p => p.shortest

/-- The greatest number of characters that a match takes. Nothing where there is no bound, or where
a part of the pattern cannot match at all. -/
def longest : Pattern → Option Nat
  | empty | look _ => some 0
  | text cs => some cs.length
  | chars set => if set.isEmpty then none else some 1
  | seq a b =>
    match a.longest, b.longest with
    | some m, some n => some (m + n)
    | _, _ => none
  | alt a b =>
    match a.longest, b.longest with
    | some m, some n => some (max m n)
    | _, _ => none
  | times _ most _ p =>
    match most, p.longest with
    | some m, some n => some (m * n)
    | _, _ => none
  | group _ p => p.longest

/-- Each match takes a character or more. -/
def isProductive (p : Pattern) : Bool := p.shortest.any (0 < ·)

/-! ## Sets -/

/-- One character of a set; a set of one character is that character. -/
def ofSet : Text.Ranges → Pattern
  | [(a, b)] => if a = b then text [Char.ofNat a] else chars [(a, b)]
  | set => chars set

/-! ## Sequences -/

/-- The parts of a sequence. -/
def parts : Pattern → List Pattern
  | empty => []
  | seq a b => a.parts ++ b.parts
  | p => [p]

/-- Makes one text of neighbouring texts. -/
def joinTexts : List Pattern → List Pattern
  | [] => []
  | p :: ps =>
    match p, joinTexts ps with
    | text a, text b :: rest => text (a ++ b) :: rest
    | p, rest => p :: rest

/-- The sequence of some parts. -/
def ofParts : List Pattern → Pattern
  | [] => empty
  | [p] => p
  | p :: ps => seq p (ofParts ps)

/-- One pattern after the other. -/
def sequence (ps : List Pattern) : Pattern := ofParts (joinTexts (ps.flatMap parts))

/-! ## Alternatives -/

/-- The branches of alternatives. -/
def branches : Pattern → List Pattern
  | alt a b => a.branches ++ b.branches
  | p => [p]

/-- The alternatives of some branches. -/
def ofBranches : List Pattern → Pattern
  | [] => chars []
  | [p] => p
  | p :: ps => alt p (ofBranches ps)

/-- The character that a pattern is, if it is one. -/
def char? : Pattern → Option Char
  | text [c] => some c
  | _ => none

/-- The set of characters that a pattern is, if it is one. -/
def set? : Pattern → Option Text.Ranges
  | chars set => some set
  | _ => none

/-- The set that branches amount to when each of them is a character, or each of them a set. -/
def setOf? (branches : List Pattern) : Option Text.Ranges :=
  match branches.mapM char?, branches.mapM set? with
  | some cs, _ => some (cs.foldl (fun set c => set.insert c.toNat c.toNat) [])
  | none, some sets => some (sets.foldl Text.Ranges.union [])
  | none, none => none

/-- What two lists have in common at their starts. -/
def commonStart : List Pattern → List Pattern → List Pattern
  | a :: as, b :: bs => if a = b then a :: commonStart as bs else []
  | _, _ => []

/-- The pattern is a sequence of two or more parts. -/
def isSeq : Pattern → Bool
  | seq _ _ => true
  | _ => false

/-- What branches have in common at their starts, where all of them are sequences. -/
def sharedStart : List Pattern → List Pattern
  | [] => []
  | p :: ps =>
    if p.isSeq && ps.all isSeq then ps.foldl (fun shared q => commonStart shared q.parts) p.parts
    else []

/-- Branches without alternatives among them, or the set they amount to. -/
def flatAlternatives (ps : List Pattern) : Pattern :=
  match ps.flatMap branches with
  | [p] => p
  | branches =>
    match setOf? branches with
    | some set => ofSet set
    | none => ofBranches branches

/-- One pattern or another, the earlier the better. What all of them start with is matched before
the choice. -/
def alternatives (ps : List Pattern) : Pattern :=
  let branches := ps.flatMap branches
  match setOf? branches, sharedStart branches with
  | none, first :: more =>
    if branches.length = 1 then flatAlternatives ps
    else
      let shared := first :: more
      sequence (shared ++
        [flatAlternatives (branches.map fun p => sequence (p.parts.drop shared.length))])
  | _, _ => flatAlternatives ps

/-! ## Repetitions -/

/-- Repetitions of a pattern. What takes no character is matched at most once. -/
def repeated (least : Nat) (most : Option Nat) (greedy : Bool) (p : Pattern) : Pattern :=
  let (least, most) :=
    if p.longest = some 0 then (min least 1, some (min (most.getD 1) 1)) else (least, most)
  match least, most with
  | 0, some 0 => empty
  | 1, some 1 => p
  | least, most => times least most greedy p

end Pattern

end Concord
