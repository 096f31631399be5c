import Concord.Pattern.Search
import Concord.Pattern.Weight

/-!
# What names tell

A renaming tool gives itself away by the shape of the names that it makes up (`RenameTest`).

Compilers name the types and members that they generate after the member they were generated
from: `<Compute>d__4` is a state machine for `Compute`. Renaming leaves such names alone, so
that the name of the host can be read off them. Beside such conventions there are fields whose
generated names are fixed.
-/

namespace Concord

/-! ## Names that look renamed -/

/-- Tells from a name whether a renaming tool made it up. -/
abbrev RenameTest := String → Bool

namespace RenameTest

/-- Names of exactly `length` capital letters from `A` to `Z`. The length is that of the name in
bytes. -/
def capitals (length : Nat) : RenameTest := fun name =>
  name.utf8ByteSize = length &&
    name.toUTF8.data.toList.all fun b => 'A'.toUInt8 ≤ b && b ≤ 'Z'.toUInt8

end RenameTest

/-! ## Names that compilers generate -/

/-- A convention for generated names. The first group of the pattern is the name of the host. -/
structure Convention where
  name : String
  pattern : Pattern
  /-- What is added to the host's name to make the name of a generated type. -/
  typeSuffix : String
deriving Repr

/-- The text given as the pattern of a convention is none. -/
structure InvalidConvention where
  name : String
deriving Repr, DecidableEq

namespace Convention

/-- A convention whose pattern is given as text. -/
def make (name pattern typeSuffix : String) : Except InvalidConvention Convention :=
  match Pattern.ofText? pattern with
  | some pattern => .ok { name, pattern, typeSuffix }
  | none => .error { name }

/-- The host that an identifier was generated from. -/
def host? (r : Convention) (identifier : String) : Option String :=
  match r.pattern.captured? 1 identifier.toList with
  | none | some [] => none
  | some host => some (String.ofList host)

end Convention

/-- The conventions for generated names. -/
structure Conventions where
  rules : List Convention := []
  /-- Generated field names and the names that are recovered for them. -/
  fixedFields : List (String × String) := []
deriving Repr

namespace Conventions

/-- Nothing counts as generated. -/
def empty : Conventions := {}

/-- Adds a convention behind the others. -/
def add (t : Conventions) (r : Convention) : Conventions :=
  { t with rules := t.rules ++ [r] }

/-- Adds a fixed field behind the others. -/
def addFixedField (t : Conventions) (generated recovered : String) : Conventions :=
  { t with fixedFields := t.fixedFields ++ [(generated, recovered)] }

/-- The pattern `<host>X__N`: the host's name is made of word characters, `X` is any character
that does not end a line, and `N` is made of decimal digits. -/
def bracketedHost : Pattern :=
  .seq (.look .textStart) <| .seq (.text ['<']) <|
  .seq (.group 1 (.times 1 none true (.chars Text.wordRanges))) <| .seq (.text ['>']) <|
  .seq (.chars (Text.Ranges.single '\n').complement) <| .seq (.text ['_', '_']) <|
  .seq (.times 1 none true (.chars Text.decimalDigitRanges)) (.look .textFinish)

/-- How the pattern is written. -/
theorem read_bracketedHost :
    Pattern.read? "^<([\\w\\d]+)>.__\\d+$".toList = some bracketedHost := by
  decide +kernel

/-- The conventions of C# compilers for iterators and asynchronous methods. -/
def csharp : Conventions where
  rules := [{ name := "bracketed-host", pattern := bracketedHost, typeSuffix := "__d" }]
  fixedFields :=
    [("<>1__state", "__state"), ("<>2__current", "__current"), ("<>4__this", "__this")]

/-- The name recovered for a generated type: the host's name and the suffix of the first
convention that finds one. -/
def typeNameOf? (t : Conventions) (name : String) : Option String :=
  t.rules.findSome? fun r => (r.host? name).map (· ++ r.typeSuffix)

/-- The name recovered for a generated member: the host's name. -/
def hostOf? (t : Conventions) (name : String) : Option String :=
  t.rules.findSome? fun r => r.host? name

/-- The name recovered for a fixed field. -/
def fixedField? (t : Conventions) (name : String) : Option String :=
  (t.fixedFields.find? (·.1 = name)).map (·.2)

end Conventions

/-- Characters without the pairs of angle brackets that hold nothing. -/
def dropEmptyBrackets : List Char → List Char
  | '<' :: '>' :: rest => dropEmptyBrackets rest
  | c :: rest => c :: dropEmptyBrackets rest
  | [] => []

/-- A name without the marks of anonymous types. -/
def withoutEmptyBrackets (name : String) : String :=
  String.ofList (dropEmptyBrackets name.toList)

end Concord
