import Concord.Decimal.Read
import Concord.Text.Classes

/-!
# Settings from the environment

Variables of the environment, and how their values are read as numbers and switches. Blanks
around a number or a truth value do not matter; a value that cannot be read counts as absent.
-/

namespace Concord

/-- The variables that are set. -/
structure Environment where
  settings : List (String × String) := []
deriving Repr

namespace Environment

/-- The value of a variable, if it is set. -/
def get? (e : Environment) (name : String) : Option String := e.settings.lookup name

/-- The value of a variable as read by `read?`, blanks at its ends apart. -/
def value? {α : Type} (e : Environment) (read? : List Char → Option α) (name : String) :
    Option α :=
  (e.get? name).bind fun s => read? (Text.trim s.toList)

/-- A number that counts or measures something in memory. -/
def size? (e : Environment) (name : String) : Option Nat :=
  e.value? (Decimal.readNat? (UInt64.size - 1)) name

/-- A word of sixteen bits. -/
def word16? (e : Environment) (name : String) : Option Nat :=
  e.value? (Decimal.readNat? (UInt16.size - 1)) name

/-- A signed integer of sixty-four bits. -/
def int64? (e : Environment) (name : String) : Option Int :=
  e.value? (Decimal.readInt? Int64.minValue.toInt Int64.maxValue.toInt) name

/-- A double. -/
def float? (e : Environment) (name : String) : Option Float :=
  e.value? Decimal.readFloat? name

/-- Reads `true` and `false`. -/
def readBool? (cs : List Char) : Option Bool :=
  match String.ofList cs with
  | "true" => some true
  | "false" => some false
  | _ => none

/-- A truth value. -/
def bool? (e : Environment) (name : String) : Option Bool := e.value? readBool? name

/-- A switch: on for a few words in any case, off for every other value, and `default` when the
variable is not set. No letter beyond `A` to `Z` has a small form that occurs in these words. -/
def switch (e : Environment) (name : String) (default : Bool) : Bool :=
  match e.get? name with
  | none => default
  | some s => ["1", "true", "yes", "on"].contains (s.map Char.toLower)

end Environment

end Concord
