import Concord.Json.Fault

/-!
# String literals

A string literal is read into its pieces and the way it ends. Only when its text is asked for do
the code units of `\u` escapes have to pair up, so a literal that nobody looks at may hold a
surrogate on its own.
-/

namespace Concord.Json

/-- One piece of a string literal. -/
inductive Piece where
  /-- A character written as itself or by a short escape. -/
  | char (c : Char)
  /-- A code unit of sixteen bits, written by a `\u` escape. -/
  | unit (n : Nat)
deriving Repr, DecidableEq

/-- How a string literal ends. -/
inductive LiteralEnd where
  | closed
  /-- The text ends inside the literal. -/
  | cut
  /-- A control character stands in the literal. -/
  | control
  /-- A backslash is followed by a character that names no escape. -/
  | badEscape
  /-- The four characters of a `\u` escape are not all hexadecimal digits. -/
  | badHex
deriving Repr, DecidableEq

/-- A string literal after its opening quotation mark. -/
structure Literal where
  pieces : List Piece
  ending : LiteralEnd
deriving Repr, DecidableEq

/-- The value of a hexadecimal digit of either case. -/
def hexValue? (c : Char) : Option Nat :=
  if '0' ≤ c && c ≤ '9' then some (c.toNat - '0'.toNat)
  else if 'a' ≤ c && c ≤ 'f' then some (c.toNat - 'a'.toNat + 10)
  else if 'A' ≤ c && c ≤ 'F' then some (c.toNat - 'A'.toNat + 10)
  else none

/-- The character that a one-letter escape stands for. -/
def shortEscape? : Char → Option Char
  | '"' => some '"'
  | '\\' => some '\\'
  | '/' => some '/'
  | 'b' => some '\x08'
  | 'f' => some '\x0c'
  | 'n' => some '\n'
  | 'r' => some '\r'
  | 't' => some '\t'
  | _ => none

/-- Four hexadecimal digits as one number. -/
def hexUnit? (a b c d : Char) : Option Nat := do
  let a ← hexValue? a
  let b ← hexValue? b
  let c ← hexValue? c
  let d ← hexValue? d
  some (((a * 16 + b) * 16 + c) * 16 + d)

/-- The number of bytes that characters take up. -/
def byteLength : List Char → Nat
  | [] => 0
  | c :: rest => c.utf8Size + byteLength rest

/-- A `\u` escape needs four more bytes of text before its digits are even looked at. -/
def hexEnd (rest : List Char) : LiteralEnd :=
  if byteLength rest < 4 then .cut else .badHex

namespace Literal

/-- Puts a piece in front. -/
def cons (p : Piece) (l : Literal × List Char) : Literal × List Char :=
  ({ l.1 with pieces := p :: l.1.pieces }, l.2)

/-- Reads a literal after its opening quotation mark, and gives what follows it. Nothing follows
a literal that does not close. -/
def read : List Char → Literal × List Char
  | [] => (⟨[], .cut⟩, [])
  | '"' :: rest => (⟨[], .closed⟩, rest)
  | '\\' :: [] => (⟨[], .cut⟩, [])
  | '\\' :: 'u' :: a :: b :: c :: d :: rest =>
    match hexUnit? a b c d with
    | some n => cons (.unit n) (read rest)
    | none => (⟨[], .badHex⟩, [])
  | '\\' :: 'u' :: rest => (⟨[], hexEnd rest⟩, [])
  | '\\' :: e :: rest =>
    match shortEscape? e with
    | some c => cons (.char c) (read rest)
    | none => (⟨[], .badEscape⟩, [])
  | c :: rest =>
    if c < ' ' then (⟨[], .control⟩, []) else cons (.char c) (read rest)

end Literal

/-- The fault of a literal that does not close, whether or not its text is asked for. -/
def LiteralEnd.fault? : LiteralEnd → Option Fault
  | .closed => none
  | .cut => some (.cut .text)
  | .control => some (.malformed .controlInText)
  | .badEscape | .badHex => some (.malformed .badEscape)

/-- The unit can only be the first of a pair. -/
def isHighSurrogate (n : Nat) : Bool := 0xd800 ≤ n && n ≤ 0xdbff

/-- The unit can only be the second of a pair. -/
def isLowSurrogate (n : Nat) : Bool := 0xdc00 ≤ n && n ≤ 0xdfff

/-- The character that a pair of surrogates stands for. -/
def surrogatePair (high low : Nat) : Char :=
  Char.ofNat ((high - 0xd800) * 0x400 + (low - 0xdc00) + 0x10000)

/-- The fault at the end of a literal whose last piece waits for the second half of a pair. -/
def LiteralEnd.unpairedFault : LiteralEnd → Fault
  | .cut => .cut .text
  | .badHex => .malformed .badEscape
  | .closed | .control | .badEscape => .malformed .unpairedSurrogate

/-- The characters that the pieces of a literal stand for. The first fault from the left wins. -/
def decodePieces (ending : LiteralEnd) : List Piece → Except Fault (List Char)
  | [] =>
    match ending.fault? with
    | none => .ok []
    | some fault => .error fault
  | .char c :: rest => (decodePieces ending rest).map (c :: ·)
  | .unit n :: rest =>
    if isLowSurrogate n then .error (.malformed .loneSurrogate)
    else if isHighSurrogate n then
      match rest with
      | .unit m :: more =>
        if isLowSurrogate m then (decodePieces ending more).map (surrogatePair n m :: ·)
        else .error (.malformed .loneSurrogate)
      | .char _ :: _ => .error (.malformed .unpairedSurrogate)
      | [] => .error ending.unpairedFault
    else (decodePieces ending rest).map (Char.ofNat n :: ·)

/-- The text of a literal. -/
def Literal.text (l : Literal) : Except Fault String :=
  (decodePieces l.ending l.pieces).map String.ofList

end Concord.Json
