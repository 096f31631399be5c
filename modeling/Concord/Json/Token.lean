import Concord.Decimal.Read
import Concord.Json.Literal

/-!
# Tokens

A JSON text is cut into tokens before its structure is looked at. A text that breaks off inside
a word or a number ends in a `Token.broken`, after which nothing is read. Cutting never fails:
whether a token may stand where it stands is decided when the structure is read, so that the
first fault of the text is the one reported.
-/

namespace Concord.Json

/-- A number as written: its sign, its digits before and after the point, its exponent, and
whether it is written as an integer, without point and exponent. -/
structure Numeral where
  negative : Bool
  whole : List Char
  fraction : List Char
  exponent : Int
  integral : Bool
deriving Repr, DecidableEq

/-- Where a reader gets stuck. -/
inductive Snag where
  /-- The text ends where a value has to start. -/
  | noText
  /-- No value starts with the next character. -/
  | noValue
  /-- The text ends inside `null`, `true` or `false`. -/
  | wordCut
  /-- A word other than `null`, `true` and `false`. -/
  | misspelt
  /-- The text ends inside a number. -/
  | numberCut
  /-- A number with a digit too many or too few. -/
  | badNumber
  /-- The text ends after `[` or an item. -/
  | listCut
  /-- Something other than a comma or `]` follows an item. -/
  | noListSeparator
  /-- `]` follows a comma. -/
  | listCommaClose
  /-- The text ends after a comma in a list. -/
  | listCommaCut
  /-- The text ends after the opening of a record, a key or a member. -/
  | recordCut
  /-- Something other than a comma or the closing of the record follows a member. -/
  | noRecordSeparator
  /-- The closing of the record follows a comma. -/
  | recordCommaClose
  /-- The text ends after a comma in a record. -/
  | recordCommaCut
  /-- Something other than a key stands where a key has to. -/
  | keyNotText
  /-- A key that does not close. -/
  | brokenKey (key : Literal)
  /-- Something other than a colon follows a key. -/
  | noColon
deriving Repr, DecidableEq

/-- The smallest parts of a text. -/
inductive Token where
  | openList
  | closeList
  | openRecord
  | closeRecord
  | comma
  | colon
  | null
  | bool (b : Bool)
  | number (n : Numeral)
  | text (l : Literal)
  /-- A character that starts no token. -/
  | stray
  /-- A word or number that is cut off or malformed. -/
  | broken (s : Snag)
deriving Repr, DecidableEq

/-- Space, tab, line feed and carriage return may stand between tokens. -/
def isGap (c : Char) : Bool := c = ' ' || c = '\t' || c = '\n' || c = '\r'

namespace Token

/-- Reads the rest of a word whose first letter is known. -/
def readWord (token : Token) : List Char → List Char → Token × List Char
  | [], rest => (token, rest)
  | _ :: _, [] => (.broken .wordCut, [])
  | w :: word, c :: rest =>
    if w = c then readWord token word rest else (.broken .misspelt, [])

/-- What is wrong with a number that lacks a digit in front of `rest`. -/
def digitMissing (rest : List Char) : Token × List Char :=
  (.broken (if rest.isEmpty then .numberCut else .badNumber), [])

/-- Reads the exponent of a number, if there is one. -/
def readExponent (negative : Bool) (whole fraction : List Char) (pointed : Bool)
    (cs : List Char) : Token × List Char :=
  let number (e : Int) (integral : Bool) : Token :=
    .number ⟨negative, whole, fraction, e, integral⟩
  match cs with
  | [] => (number 0 (!pointed), [])
  | c :: rest =>
    if c = 'e' || c = 'E' then
      let (minus, rest) := Decimal.splitSign rest
      let digits := rest.takeWhile Decimal.isDigit
      if digits.isEmpty then digitMissing rest
      else
        let e : Int := digitsValue digits
        (number (if minus then -e else e) false, rest.dropWhile Decimal.isDigit)
    else (number 0 (!pointed), cs)

/-- Reads a number after its sign. -/
def readNumber (negative : Bool) (cs : List Char) : Token × List Char :=
  let whole := cs.takeWhile Decimal.isDigit
  let rest := cs.dropWhile Decimal.isDigit
  if whole.isEmpty then digitMissing rest
  else if whole.head? = some '0' && 1 < whole.length then (.broken .badNumber, [])
  else
    match rest with
    | '.' :: more =>
      let fraction := more.takeWhile Decimal.isDigit
      if fraction.isEmpty then digitMissing more
      else readExponent negative whole fraction true (more.dropWhile Decimal.isDigit)
    | _ => readExponent negative whole [] false rest

/-- The token that a single character makes. -/
def ofPunctuation? : Char → Option Token
  | '[' => some .openList
  | ']' => some .closeList
  | '\x7b' => some .openRecord
  | '\x7d' => some .closeRecord
  | ',' => some .comma
  | ':' => some .colon
  | _ => none

/-- The word that starts with a letter: its token and its other letters. -/
def wordOf? : Char → Option (Token × List Char)
  | 'n' => some (.null, ['u', 'l', 'l'])
  | 't' => some (.bool true, ['r', 'u', 'e'])
  | 'f' => some (.bool false, ['a', 'l', 's', 'e'])
  | _ => none

/-- Reads the token that starts with `c`. -/
def read (c : Char) (rest : List Char) : Token × List Char :=
  match ofPunctuation? c, wordOf? c with
  | some token, _ => (token, rest)
  | none, some (token, word) => readWord token word rest
  | none, none =>
    if c = '"' then (.text (Literal.read rest).1, (Literal.read rest).2)
    else if c = '-' then readNumber true rest
    else if Decimal.isDigit c then readNumber false (c :: rest)
    else (.stray, rest)

end Token

/-! ## Reading a token consumes text -/

theorem length_dropWhile_le {α : Type} (p : α → Bool) (l : List α) :
    (l.dropWhile p).length ≤ l.length :=
  (List.dropWhile_suffix p).length_le

theorem Literal.length_read_le (cs : List Char) : (Literal.read cs).2.length ≤ cs.length := by
  fun_induction Literal.read cs <;> simp_all [Literal.cons] <;> omega

theorem Token.length_readWord_le (t : Token) (word cs : List Char) :
    (Token.readWord t word cs).2.length ≤ cs.length := by
  fun_induction Token.readWord t word cs <;> simp_all
  omega

theorem Decimal.length_splitSign_le (cs : List Char) :
    (Decimal.splitSign cs).2.length ≤ cs.length := by
  fun_cases Decimal.splitSign cs <;> simp_all

theorem Token.length_readExponent_le (n : Bool) (w f : List Char) (p : Bool) (cs : List Char) :
    (Token.readExponent n w f p cs).2.length ≤ cs.length := by
  unfold Token.readExponent
  cases cs with
  | nil => simp
  | cons c rest =>
    have h1 := Decimal.length_splitSign_le rest
    have h2 := length_dropWhile_le Decimal.isDigit (Decimal.splitSign rest).2
    simp only
    split
    · split
      · simp [Token.digitMissing]
      · simp only [List.length_cons]; omega
    · simp

theorem Token.length_readNumber_le (n : Bool) (cs : List Char) :
    (Token.readNumber n cs).2.length ≤ (cs.dropWhile Decimal.isDigit).length := by
  unfold Token.readNumber
  simp only
  split
  · simp [Token.digitMissing]
  · split
    · simp
    · split
      · next more heq =>
        have h := length_dropWhile_le Decimal.isDigit more
        have h' := Token.length_readExponent_le n (cs.takeWhile Decimal.isDigit)
          (more.takeWhile Decimal.isDigit) true (more.dropWhile Decimal.isDigit)
        rw [heq, List.length_cons]
        split
        · simp [Token.digitMissing]
        · omega
      · exact Token.length_readExponent_le ..

/-- A token has at least one character. -/
theorem Token.length_read_le (c : Char) (rest : List Char) :
    (Token.read c rest).2.length ≤ rest.length := by
  unfold Token.read
  split
  · exact Nat.le_refl _
  · exact Token.length_readWord_le ..
  · split
    · exact Literal.length_read_le rest
    · split
      · exact Nat.le_trans (Token.length_readNumber_le ..) (length_dropWhile_le ..)
      · split
        · next h =>
          have := Token.length_readNumber_le false (c :: rest)
          rw [List.dropWhile_cons_of_pos h] at this
          exact Nat.le_trans this (length_dropWhile_le ..)
        · exact Nat.le_refl _

/-- The tokens of a text. -/
def tokens : List Char → List Token
  | [] => []
  | c :: cs =>
    if isGap c then tokens cs
    else
      have := Token.length_read_le c cs
      (Token.read c cs).1 :: tokens (Token.read c cs).2
termination_by cs => cs.length

end Concord.Json
