import Concord.Environment
import Concord.Convention

/-!
# Settings of a recovery

The defaults can be overridden by variables of the environment, and these by arguments of the
command.
-/

namespace Concord

/-- What a recovery can be told. -/
structure Settings where
  /-- The length of the names that the renaming tool makes up. -/
  renamedLength : Nat := 11
  /-- Seeds with a lower score are passed over. -/
  minScore : Float := 0.0
  /-- Types that are not nested and kept their full names are seeds too. -/
  pairByName : Bool := false
deriving Repr

namespace Settings

/-- Whether a name looks renamed. -/
def looksRenamed (c : Settings) : RenameTest := .capitals c.renamedLength

/-- The settings agree with the defaults; zeros of either sign are equal. -/
def isDefault (c : Settings) : Bool :=
  let d : Settings := {}
  c.renamedLength = d.renamedLength && c.minScore == d.minScore && c.pairByName = d.pairByName

/-- Settings from variables of the environment, with defaults for those that are absent. -/
def ofEnvironment (e : Environment) : Settings :=
  let d : Settings := {}
  { renamedLength := (e.size? "NAME_RECOVERY_RENAMED_LENGTH").getD d.renamedLength
    minScore := (e.float? "NAME_RECOVERY_MIN_SCORE").getD d.minScore
    pairByName := e.switch "NAME_RECOVERY_PAIR_BY_NAME" d.pairByName }

end Settings

end Concord
