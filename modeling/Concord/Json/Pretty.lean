/-!
# Indented JSON text

`Value.pretty` lays a value out over lines: two blanks per level, one item or member on a line,
nothing between the brackets of an empty list or record.
-/

namespace Concord.Json

/-- A value to be written. -/
inductive Value where
  | text (s : String)
  | list (items : List Value)
  | record (members : List (String × Value))
deriving Repr

/-- A hexadecimal digit in lower case. -/
def hexDigit (n : Nat) : Char := Nat.digitChar n

/-- A character inside a string literal: quotation marks, backslashes and control characters
are escaped, by a letter where there is one, and nothing else is. -/
def escapeChar (c : Char) : List Char :=
  match c with
  | '"' => ['\\', '"']
  | '\\' => ['\\', '\\']
  | '\x08' => ['\\', 'b']
  | '\x0c' => ['\\', 'f']
  | '\n' => ['\\', 'n']
  | '\r' => ['\\', 'r']
  | '\t' => ['\\', 't']
  | c =>
    if c < ' ' then
      ['\\', 'u', '0', '0', hexDigit (c.toNat / 16), hexDigit (c.toNat % 16)]
    else [c]

/-- A string literal. -/
def literal (s : String) : List Char := '"' :: s.toList.flatMap escapeChar ++ ['"']

/-- A new line at a level of indentation. -/
def newline (level : Nat) : List Char := '\n' :: List.replicate (2 * level) ' '

mutual

/-- A value that stands at a level of indentation. -/
def Value.lines (level : Nat) : Value → List Char
  | .text s => literal s
  | .list [] => ['[', ']']
  | .list (item :: rest) =>
    '[' :: newline (level + 1) ++ item.lines (level + 1) ++
      (itemLines (level + 1) rest ++ newline level ++ [']'])
  | .record [] => ['\x7b', '\x7d']
  | .record ((key, value) :: rest) =>
    '\x7b' :: newline (level + 1) ++ literal key ++ [':', ' '] ++ value.lines (level + 1) ++
      (memberLines (level + 1) rest ++ newline level ++ ['\x7d'])

/-- The items after the first one. -/
def itemLines (level : Nat) : List Value → List Char
  | [] => []
  | item :: rest => ',' :: newline level ++ item.lines level ++ itemLines level rest

/-- The members after the first one. -/
def memberLines (level : Nat) : List (String × Value) → List Char
  | [] => []
  | (key, value) :: rest =>
    ',' :: newline level ++ literal key ++ [':', ' '] ++ value.lines level ++
      memberLines level rest

end

/-- The value as indented text. -/
def Value.pretty (v : Value) : String := String.ofList (v.lines 0)

end Concord.Json
