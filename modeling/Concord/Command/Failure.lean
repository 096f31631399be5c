import Concord.Files.System
import Concord.Json.Fault
import Concord.Concordance.Pairing

/-!
# Failures of the command

A failure has a context, the step that failed, and for most steps a cause.
-/

namespace Concord.Command

/-- Why a recovery comes to nothing. -/
inductive Failure where
  /-- There are neither seeds nor are names to be compared. -/
  | noStart
  | unreadable (path : String) (reason : FileError)
  | badModule (path : String) (fault : Json.Fault)
  | badSeeds (path : String) (fault : Json.Fault)
  | badCatalog (path : String) (duplicate : DuplicateName)
  | refused (reason : Refusal)
  | notCreated (path : String) (reason : FileError)
deriving Repr

namespace Failure

/-- What failed. -/
def context : Failure → String
  | noStart => "no correspondences to start from (use --seeds and/or --pair-by-name)"
  | unreadable path _ => s!"read {path}"
  | badModule path _ => s!"parse module {path}"
  | badSeeds path _ => s!"parse seeds {path}"
  | badCatalog path _ => s!"build type graph for {path}"
  | refused reason => reason.message
  | notCreated path _ => s!"create {path}"

/-- Why it failed, if there is more to say. -/
def cause? : Failure → Option String
  | noStart | refused _ => none
  | unreadable _ reason | notCreated _ reason => some reason.message
  | badModule _ fault | badSeeds _ fault => some fault.message
  | badCatalog _ duplicate => some duplicate.message

/-- The lines of a cause are set in by four blanks. -/
def indent (s : String) : String :=
  String.ofList (s.toList.flatMap fun c => if c = '\n' then "\n    ".toList else [c])

/-- What the user is told. -/
def report (f : Failure) : String :=
  let cause := match f.cause? with
    | none => ""
    | some cause => "\nCaused by:\n    " ++ indent cause ++ "\n"
  "Error: " ++ f.context ++ "\n" ++ cause

end Failure

end Concord.Command
