import Concord.Command.Run

/-!
# The command on the files of the machine
-/

namespace Concord.Command

/-- The reason behind an error of the system. -/
def fileError (e : IO.Error) : FileError :=
  match e with
  | .noFileOrDirectory .. => .notFound
  | .alreadyExists .. => .alreadyExists
  | .inappropriateType _ code details =>
    if code = 20 then .notADirectory
    else if code = 21 then .isADirectory
    else .other s!"{details} (os error {code})"
  | e => .other (toString e)

/-- Carries out an operation of the system. -/
def attempt {α : Type} (action : IO α) : IO (Except FileError α) := do
  try
    return .ok (← action)
  catch e =>
    return .error (fileError e)

/-- Operations on the files of the machine. -/
def machineFiles : FileAccess IO where
  readFile path := attempt (IO.FS.readBinFile path)
  makeDirectories path := attempt (IO.FS.createDirAll path)
  writeFile path content := attempt (IO.FS.writeBinFile path content)

/-- The variables that the command looks at. -/
def machineEnvironment : IO Environment := do
  let names := ["RUST_LOG", "NAME_RECOVERY_RENAMED_LENGTH", "NAME_RECOVERY_MIN_SCORE",
    "NAME_RECOVERY_PAIR_BY_NAME"]
  let values ← names.mapM fun name => return (← IO.getEnv name).map (name, ·)
  return { settings := values.filterMap fun v => v }

/-- What the user is told who asks for help. -/
def help : String :=
  "Recover the names of a renamed module from a reference module\n\n" ++
  "Usage: name-recovery [OPTIONS] --reference <PATH> --renamed <PATH>\n\n" ++
  "Options:\n" ++
  "      --reference <PATH>       description of the reference module\n" ++
  "      --renamed <PATH>         description of the renamed module\n" ++
  "      --seeds <PATH>           list of corresponding types\n" ++
  "      --pair-by-name [<BOOL>]  also pair types that kept their full names\n" ++
  "      --min-score <SCORE>      pass over seeds with a lower score\n" ++
  "      --renamed-length <N>     length of the names that look renamed\n" ++
  "      --output <PATH>          where to write the names (- for standard output)\n" ++
  "      --log-level <LEVEL>      error, warn, info, debug or trace\n" ++
  "  -h, --help                   print help\n" ++
  "  -V, --version                print version\n"

/-- A usage error in words. -/
def UsageError.message : UsageError → String
  | unknownArgument => "unexpected argument"
  | invalidValue => "an option has no value or one that is not allowed"
  | notANumber => "the value of an option is not a number"
  | repeatedOption => "an option is given twice"
  | missingOption => "--reference and --renamed have to be given"
  | unexpectedValue => "an option takes no value"
  | helpRequested => "help"
  | versionRequested => "version"

end Concord.Command

open Concord.Command in
def main (words : List String) : IO UInt32 := do
  let env ← machineEnvironment
  let outcome ← run machineFiles words env
  IO.eprint (outcome.log (shownLevels words env) ++ outcome.report)
  match outcome with
  | .done output _ => IO.print output
  | .usage .helpRequested => IO.print help
  | .usage .versionRequested => IO.print version
  | .usage e => IO.eprint ("error: " ++ e.message ++ "\n\n" ++ help)
  | .failed .. => pure ()
  return outcome.exitCode.toUInt32
