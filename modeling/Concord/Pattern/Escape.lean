import Concord.Pattern.Flags
import Concord.Text.Classes
import Concord.Text.Property

/-!
# Escapes

A backslash takes the meaning of a character with one, and gives a meaning to letters: a control,
a code point, a class of characters, or a look at the place.
-/

namespace Concord.Pattern

/-- What a backslash and the characters behind it stand for. -/
inductive Escape where
  | char (c : Char)
  | set (set : Text.Ranges)
  | look (l : Look)
deriving Repr, DecidableEq

/-- Characters that stand for themselves behind a backslash: all of ASCII but letters, digits and
angle brackets. -/
def isEscapable (c : Char) : Bool :=
  c.toNat < 0x80 && !c.isAlphanum && c ≠ '<' && c ≠ '>'

/-- Controls with a letter. -/
def controlOf? : Char → Option Char
  | 'a' => some '\x07'
  | 'f' => some '\x0c'
  | 't' => some '\t'
  | 'n' => some '\n'
  | 'r' => some '\r'
  | 'v' => some '\x0b'
  | _ => none

/-- Looks with a letter. -/
def lookOf? (f : Flags) : Char → Option Look
  | 'A' => some .textStart
  | 'z' => some .textFinish
  | 'B' => some (f.word .noEdge)
  | '<' => some (f.word .start)
  | '>' => some (f.word .finish)
  | _ => none

/-! ## Classes -/

/-- Classes of ASCII with a name. -/
def asciiClass? : String → Option Text.Ranges
  | "alnum" => some [(0x30, 0x39), (0x41, 0x5a), (0x61, 0x7a)]
  | "alpha" => some [(0x41, 0x5a), (0x61, 0x7a)]
  | "ascii" => some [(0, 0x7f)]
  | "blank" => some [(0x9, 0x9), (0x20, 0x20)]
  | "cntrl" => some [(0, 0x1f), (0x7f, 0x7f)]
  | "digit" => some [(0x30, 0x39)]
  | "graph" => some [(0x21, 0x7e)]
  | "lower" => some [(0x61, 0x7a)]
  | "print" => some [(0x20, 0x7e)]
  | "punct" => some [(0x21, 0x2f), (0x3a, 0x40), (0x5b, 0x60), (0x7b, 0x7e)]
  | "space" => some [(0x9, 0xd), (0x20, 0x20)]
  | "upper" => some [(0x41, 0x5a)]
  | "word" => some [(0x30, 0x39), (0x41, 0x5a), (0x5f, 0x5f), (0x61, 0x7a)]
  | "xdigit" => some [(0x30, 0x39), (0x41, 0x46), (0x61, 0x66)]
  | _ => none

/-- Classes with a letter: the set of all scripts and the name of the one of ASCII. -/
def classOf? : Char → Option (Text.Ranges × String)
  | 'd' | 'D' => some (Text.decimalDigitRanges, "digit")
  | 's' | 'S' => some (Text.blankRanges, "space")
  | 'w' | 'W' => some (Text.wordRanges, "word")
  | _ => none

/-- Reads a class with a letter. The capital stands for all other characters. Case makes no
difference to these classes. -/
def letterClass? (f : Flags) (c : Char) : Option (Option Text.Ranges) :=
  (classOf? c).map fun (set, ascii) =>
    let set := if f.unicode then some set else asciiClass? ascii
    if !c.isUpper then set
    else if f.unicode then set.map (·.complement)
    else none

/-- A text before and behind the first place where another one stands in it. -/
def splitAt? (mark : List Char) : List Char → Option (List Char × List Char)
  | [] => none
  | c :: rest =>
    if mark.isPrefixOf (c :: rest) then some ([], (c :: rest).drop mark.length)
    else (splitAt? mark rest).map fun (before, after) => (c :: before, after)

/-- The set that stands between the braces of a property. -/
def propertySet? (name : List Char) : Option Text.Ranges :=
  match (splitAt? ['!', '='] name <|> splitAt? [':'] name) <|> splitAt? ['='] name with
  | some (property, value) => Text.charsValued? property value
  | none => Text.charsNamed? name

/-- Reads a property after its letter: a name in braces, or a single letter. Properties are of all
scripts. -/
def readProperty? (f : Flags) (negated : Bool) (cs : List Char) :
    Option (Text.Ranges × List Char) :=
  match f.skip cs with
  | [] | '\\' :: _ => none
  | c :: rest =>
    let (name, rest) := if c = '\x7b' then f.span (· ≠ '\x7d') rest else ([c], '\x7d' :: rest)
    match rest with
    | [] => none
    | _ :: rest =>
      if !f.unicode then none
      else ((propertySet? name).bind (f.finish? negated)).map (·, rest)

/-! ## Code points -/

/-- The value of a hexadecimal digit. -/
def hexValue? (c : Char) : Option Nat :=
  if c.isDigit then some (c.toNat - '0'.toNat)
  else if 'a' ≤ c && c ≤ 'f' then some (c.toNat - 'a'.toNat + 10)
  else if 'A' ≤ c && c ≤ 'F' then some (c.toNat - 'A'.toNat + 10)
  else none

/-- The character of a code point written in hexadecimal digits. -/
def hexChar? (digits : List Char) : Option Char :=
  match digits.mapM hexValue? with
  | none | some [] => none
  | some values =>
    let n := values.foldl (fun n d => 16 * n + d) 0
    if n.isValidChar then some (Char.ofNat n) else none

/-- How many digits follow the letter of a code point when they are not in braces. -/
def hexWidth? : Char → Option Nat
  | 'x' => some 2
  | 'u' => some 4
  | 'U' => some 8
  | _ => none

/-- Reads a number of characters that count. -/
def readCounted? (f : Flags) : Nat → List Char → Option (List Char × List Char)
  | 0, cs => some ([], cs)
  | n + 1, cs =>
    match f.skip cs with
    | [] => none
    | c :: rest => (readCounted? f n rest).map fun (taken, rest) => (c :: taken, rest)

/-- Reads a code point after its letter. Two digits without braces stand for a byte, which is a
character of its own in ASCII only when classes are those of ASCII only. -/
def readHex? (f : Flags) (width : Nat) (cs : List Char) : Option (Char × List Char) :=
  match f.skip cs with
  | '\x7b' :: rest =>
    let (digits, rest) := f.span (· ≠ '\x7d') rest
    match rest with
    | [] => none
    | _ :: rest => (hexChar? digits).map (·, rest)
  | cs =>
    match readCounted? f width cs with
    | none => none
    | some (digits, rest) =>
      match hexChar? digits with
      | none => none
      | some c => if !f.unicode && width = 2 && 0x80 ≤ c.toNat then none else some (c, rest)

/-! ## Words -/

/-- The names of the sides of a word. -/
def wordSide? : String → Option WordSide
  | "start" => some .start
  | "end" => some .finish
  | "start-half" => some .startHalf
  | "end-half" => some .finishHalf
  | _ => none

/-- Reads the side of a word in braces after the letter of an edge. Braces with anything but a
letter or a hyphen at their start are left for a repetition. -/
def readEdge? (f : Flags) (cs : List Char) : Option (Look × List Char) :=
  match cs with
  | '\x7b' :: rest =>
    let isName (c : Char) : Bool := c.isAlpha || c = '-'
    match f.skip rest with
    | [] => none
    | c :: rest =>
      if !isName c then some (f.word .edge, cs)
      else
        match f.span isName (c :: rest) with
        | (name, '\x7d' :: rest) => (wordSide? (String.ofList name)).map (f.word ·, rest)
        | _ => none
  | _ => some (f.word .edge, cs)

/-! ## All escapes -/

/-- Reads what stands behind a backslash. -/
def readEscape? (f : Flags) : List Char → Option (Escape × List Char)
  | [] => none
  | c :: rest =>
    if c = 'b' then (readEdge? f rest).map fun (l, rest) => (.look l, rest)
    else if c = 'p' || c = 'P' then
      (readProperty? f (c = 'P') rest).map fun (set, rest) => (.set set, rest)
    else
      match letterClass? f c, lookOf? f c, controlOf? c, hexWidth? c with
      | some set, _, _, _ => set.map fun set => (.set set, rest)
      | _, some l, _, _ => some (.look l, rest)
      | _, _, some control, _ => some (.char control, rest)
      | _, _, _, some width => (readHex? f width rest).map fun (c, rest) => (.char c, rest)
      | none, none, none, none => if isEscapable c then some (.char c, rest) else none

end Concord.Pattern
