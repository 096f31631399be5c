import Concord.Command.Arguments
import Concord.Command.Failure
import Concord.Module.Decode
import Concord.NameTree.Render
import Concord.Recovery.Basic

/-!
# Running the command

`run` reads the two modules and the seeds, recovers the names and writes them. It reaches files
only through a `FileAccess`, so that it can be run on a `FileSystem` as well as on the files of
the machine.
-/

namespace Concord.Command

/-- The operations on files that the command needs. -/
structure FileAccess (m : Type → Type) where
  readFile : String → m (Except FileError ByteArray)
  makeDirectories : String → m (Except FileError Unit)
  writeFile : String → ByteArray → m (Except FileError Unit)

/-- Operations on a file system that is a value. -/
def FileAccess.pure : FileAccess (StateM FileSystem) where
  readFile path := fun fs => (fs.readFile path, fs)
  makeDirectories path := fun fs =>
    let (fs, answer) := FileSystem.makeDirectories FileSystem.makeDirectory fs path
    (answer, fs)
  writeFile path content := fun fs =>
    match fs.writeFile path content with
    | .ok fs => (.ok (), fs)
    | .error e => (.error e, fs)

/-- How the command ends. -/
inductive Outcome where
  /-- The words do not start a recovery. -/
  | usage (e : UsageError)
  /-- The recovery failed, after these events. -/
  | failed (f : Failure) (events : List Event)
  /-- The recovery succeeded, with this on the standard output. -/
  | done (output : String) (events : List Event)
deriving Repr

section Files

variable {m : Type → Type} [Monad m]

/-! ## Reading -/

/-- Reads a file that holds text. -/
def readText (files : FileAccess m) (path : String) : m (Except Failure String) := do
  match ← files.readFile path with
  | .error reason => return .error (.unreadable path reason)
  | .ok bytes =>
    match String.fromUTF8? bytes with
    | some text => return .ok text
    | none => return .error (.unreadable path .notText)

/-- The type catalog of a text that describes a module. -/
def catalogOfText (path text : String) : Except Failure Catalog :=
  match Module.ofText text with
  | .error fault => .error (.badModule path fault)
  | .ok module =>
    match Catalog.ofModule module with
    | .error duplicate => .error (.badCatalog path duplicate)
    | .ok catalog => .ok catalog

/-- Reads the type catalog of a module. -/
def loadModule (files : FileAccess m) (path : String) : m (Except Failure Catalog) := do
  match ← readText files path with
  | .error f => return .error f
  | .ok text => return catalogOfText path text

/-- The seeds of a text that lists them. -/
def seedsOfText (path text : String) : Except Failure (List Seed) :=
  match Seed.listOfText text with
  | .error fault => .error (.badSeeds path fault)
  | .ok seeds => .ok seeds

/-- Reads a list of seeds, if there is one. -/
def loadSeeds (files : FileAccess m) : Option String → m (Except Failure (List Seed))
  | none => return .ok []
  | some path => do
    match ← readText files path with
    | .error f => return .error f
    | .ok text => return seedsOfText path text

/-- The event that a module has been read. -/
def loadedEvent (path : String) (g : Catalog) : Event := .loaded path g.name g.size

/-! ## Writing -/

/-- Makes the directories on the way to a file. -/
def makeParent (files : FileAccess m) (path : String) : m (Except Failure Unit) := do
  match Path.parent? path with
  | none | some "" => return .ok ()
  | some parent =>
    match ← files.makeDirectories parent with
    | .error reason => return .error (.notCreated parent reason)
    | .ok () => return .ok ()

/-- Writes recovered names to a file, or to the standard output for `-`. Gives what goes to the
standard output. -/
def writeNames (files : FileAccess m) (path : String) (names : NameForest) :
    m (Except Failure String) := do
  if path = "-" then return .ok names.render
  else
    match ← makeParent files path with
    | .error f => return .error f
    | .ok () =>
      match ← files.writeFile path names.render.toUTF8 with
      | .error reason => return .error (.notCreated path reason)
      | .ok () => return .ok ""

/-! ## The command -/

/-- Settings of the environment, overridden by arguments. -/
def settingsFor (a : Arguments) (env : Environment) : Settings :=
  let c := Settings.ofEnvironment env
  { renamedLength := a.renamedLength.getD c.renamedLength
    minScore := a.minScore.getD c.minScore
    pairByName := a.pairByName.getD c.pairByName }

/-- Recovers the names and writes them. -/
def recoverAndWrite (files : FileAccess m) (a : Arguments) (settings : Settings)
    (reference renamed : Catalog) (seeds : List Seed) (events : List Event) : m Outcome := do
  let recovered := recoverNames reference renamed seeds settings
  let events := events ++ recovered.events
  match recovered.value with
  | .error reason => return .failed (.refused reason) events
  | .ok names =>
    let events := events ++ [.finished names.tally]
    match ← writeNames files a.output names with
    | .error f => return .failed f events
    | .ok output => return .done output events

/-- Carries out what the arguments ask for. -/
def runWith (files : FileAccess m) (a : Arguments) (env : Environment) : m Outcome := do
  let settings := settingsFor a env
  if a.seeds.isNone && !settings.pairByName then return .failed .noStart []
  else
    match ← loadModule files a.reference with
    | .error f => return .failed f []
    | .ok reference =>
      let events := [loadedEvent a.reference reference]
      match ← loadModule files a.renamed with
      | .error f => return .failed f events
      | .ok renamed =>
        let events := events ++ [loadedEvent a.renamed renamed]
        match ← loadSeeds files a.seeds with
        | .error f => return .failed f events
        | .ok seeds => recoverAndWrite files a settings reference renamed seeds events

/-- Runs the command. -/
def run (files : FileAccess m) (words : List String) (env : Environment) : m Outcome :=
  match Arguments.ofWords words with
  | .error e => return .usage e
  | .ok a => runWith files a env

end Files

/-! ## What the user sees -/

/-- The name and version of the command. -/
def version : String := "name-recovery 0.1.0\n"

/-- How many levels of events are shown: those up to the level that the environment names, or
else up to the one of the arguments. -/
def shownLevels (words : List String) (env : Environment) : Nat :=
  let named := (env.get? "RUST_LOG").bind fun s =>
    let name := s.map Char.toLower
    if name = "off" then some 0 else (Level.ofName? name).map Level.rank
  match named, Arguments.ofWords words with
  | some rank, _ => rank
  | none, .ok a => a.logLevel.rank
  | none, .error _ => 0

namespace Outcome

/-- The exit code: help and version are no errors, a recovery that fails is one, and so is
everything else that does not start a recovery. -/
def exitCode : Outcome → Nat
  | usage .helpRequested | usage .versionRequested | done .. => 0
  | failed .. => 1
  | usage _ => 2

/-- The events that were reported. -/
def events : Outcome → List Event
  | usage _ => []
  | failed _ events | done _ events => events

/-- The lines of the events that are shown. -/
def log (o : Outcome) (shown : Nat) : String :=
  String.join ((o.events.filter (·.level.rank ≤ shown)).map Event.line)

/-- What a failure adds to the log. -/
def report : Outcome → String
  | failed f _ => f.report
  | usage _ | done .. => ""

end Outcome

end Concord.Command
