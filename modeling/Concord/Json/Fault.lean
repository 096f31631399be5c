import Concord.Decimal.Format
import Concord.Text.Quoted

/-!
# Why a JSON text cannot be read

A text can be cut off, malformed, or well-formed and still not describe what is asked for.
`Fault` tells these apart, and `Fault.message` is the one place where they are put into words.
-/

namespace Concord.Json

/-- What was being read when the text ended. -/
inductive Cut where
  | value
  | list
  | text
  | record
deriving Repr, DecidableEq

/-- How a text breaks the rules of the format. -/
inductive Malformed where
  | noValue
  | noColon
  | noListSeparator
  | noRecordSeparator
  | misspelt
  | keyNotText
  | trailingComma
  | trailingText
  | badNumber
  | numberTooLarge
  | badEscape
  | loneSurrogate
  | unpairedSurrogate
  | controlInText
  | tooDeep
deriving Repr, DecidableEq

/-- What kind of value was found where another was asked for. -/
inductive Found where
  | null
  | bool (b : Bool)
  | integer (i : Int)
  | float (x : Float)
  | text (s : String)
  | list
  | record
deriving Repr

/-- What kind of value was asked for. -/
inductive Expected where
  | text
  | list
  | word16
  | double
  | record (name : String)
deriving Repr, DecidableEq

/-- How a well-formed value fails to describe what is asked for. -/
inductive Misfit where
  | wrongType (found : Found) (expected : Expected)
  | outOfRange (i : Int) (expected : Expected)
  | tooShort (length : Nat) (name : String) (size : Nat)
  | missing (field : String)
  | repeated (field : String)
deriving Repr

/-- Why reading a text failed. -/
inductive Fault where
  | cut (c : Cut)
  | malformed (m : Malformed)
  | misfit (m : Misfit)
deriving Repr

/-- Doubles in messages: written out in positions from `10 ^ -5` up to `10 ^ 16`, an exponent
with a sign beyond. -/
def messageFloat : FloatFormat :=
  { lowest := -4, highest := 16, plusSign := true, exponentWidth := 1, tieToEven := true }

def Cut.message : Cut → String
  | .value => "EOF while parsing a value"
  | .list => "EOF while parsing a list"
  | .text => "EOF while parsing a string"
  | .record => "EOF while parsing an object"

def Malformed.message : Malformed → String
  | .noValue => "expected value"
  | .noColon => "expected `:`"
  | .noListSeparator => "expected `,` or `]`"
  | .noRecordSeparator => "expected `,` or `\x7d`"
  | .misspelt => "expected ident"
  | .keyNotText => "key must be a string"
  | .trailingComma => "trailing comma"
  | .trailingText => "trailing characters"
  | .badNumber => "invalid number"
  | .numberTooLarge => "number out of range"
  | .badEscape => "invalid escape"
  | .loneSurrogate => "lone leading surrogate in hex escape"
  | .unpairedSurrogate => "unexpected end of hex escape"
  | .controlInText => "control character (\\u0000-\\u001F) found while parsing a string"
  | .tooDeep => "recursion limit exceeded"

def Found.message : Found → String
  | .null => "null"
  | .bool b => s!"boolean `{b}`"
  | .integer i => s!"integer `{i}`"
  | .float x => "floating point `" ++ messageFloat.render x ++ "`"
  | .text s => "string " ++ Text.quote s
  | .list => "sequence"
  | .record => "map"

def Expected.message : Expected → String
  | .text => "a string"
  | .list => "a sequence"
  | .word16 => "u16"
  | .double => "f64"
  | .record name => s!"struct {name}"

def Misfit.message : Misfit → String
  | .wrongType found expected => s!"invalid type: {found.message}, expected {expected.message}"
  | .outOfRange i expected => s!"invalid value: integer `{i}`, expected {expected.message}"
  | .tooShort length name size =>
    let elements := if size = 1 then "1 element" else s!"{size} elements"
    s!"invalid length {length}, expected struct {name} with {elements}"
  | .missing field => s!"missing field `{field}`"
  | .repeated field => s!"duplicate field `{field}`"

/-- The fault in words. -/
def Fault.message : Fault → String
  | .cut c => c.message
  | .malformed m => m.message
  | .misfit m => m.message

end Concord.Json
