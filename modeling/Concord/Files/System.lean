import Concord.Files.Path

/-!
# File systems

A file system maps places to files and directories. A place is the list of names that leads to
it from the root directory. Each operation answers with the reason why it fails. One that fails
changes nothing, except that of several directories some may have been made.
-/

namespace Concord

/-- Why a file cannot be used. -/
inductive FileError where
  | notFound
  | alreadyExists
  | notADirectory
  | isADirectory
  /-- A name on the way has more bytes than directories can hold, or the whole path has more than
  a path may have. -/
  | nameTooLong
  /-- The path holds a character of code zero. -/
  | zeroInPath
  | notText
  /-- Any other reason, in the words of the system. -/
  | other (reason : String)
deriving Repr, DecidableEq

/-- The reason in words. -/
def FileError.message : FileError → String
  | notFound => "No such file or directory (os error 2)"
  | alreadyExists => "File exists (os error 17)"
  | notADirectory => "Not a directory (os error 20)"
  | isADirectory => "Is a directory (os error 21)"
  | nameTooLong => "File name too long (os error 36)"
  | zeroInPath => "file name contained an unexpected NUL byte"
  | notText => "stream did not contain valid UTF-8"
  | other reason => reason

/-- The names that lead from the root directory to a file. -/
abbrev Place := List String

/-- What is found at a place. -/
inductive FileEntry where
  | file (content : ByteArray)
  | directory

/-- The entry is a directory. -/
def FileEntry.isDirectory : FileEntry → Bool
  | file _ => false
  | directory => true

/-- Files and directories, and the directory that relative paths start from. -/
structure FileSystem where
  entries : List (Place × FileEntry) := []
  workingDirectory : Place := []

namespace FileSystem

/-- What is found at a place. The root directory is always there. -/
def entry? (fs : FileSystem) (place : Place) : Option FileEntry :=
  if place.isEmpty then some .directory else fs.entries.lookup place

/-- Puts an entry at a place, whatever was there before. -/
def put (fs : FileSystem) (place : Place) (e : FileEntry) : FileSystem :=
  { fs with entries := (place, e) :: fs.entries.filter (·.1 ≠ place) }

/-- Fails unless a directory is at the place. -/
def checkDirectory (fs : FileSystem) (place : Place) : Except FileError Unit :=
  match fs.entry? place with
  | some .directory => .ok ()
  | some (.file _) => .error .notADirectory
  | none => .error .notFound

/-- The number of bytes that a name may have. -/
def nameLimit : Nat := 255

/-- The number of bytes that a path stays below. -/
def pathLimit : Nat := 4096

/-- Fails for paths that cannot be looked up anywhere. -/
def checkPath (path : String) : Except FileError Unit :=
  if path = "" then .error .notFound
  else if path.toList.contains '\x00' then .error .zeroInPath
  else if pathLimit ≤ path.utf8ByteSize then .error .nameTooLong
  else .ok ()

/-- Fails unless the name can be looked up at the place. -/
def checkName (fs : FileSystem) (place : Place) (name : String) : Except FileError Unit :=
  match fs.checkDirectory place with
  | .error e => .error e
  | .ok () => if nameLimit < name.utf8ByteSize then .error .nameTooLong else .ok ()

/-- Where one name leads to from a directory. -/
def next (place : Place) (name : String) : Place :=
  if name = "." then place else if name = ".." then place.dropLast else place ++ [name]

/-- Walks along names, each of which is looked up in a directory. Nothing needs to be at the
place where the walk ends. -/
def walk (fs : FileSystem) (place : Place) : List String → Except FileError Place
  | [] => .ok place
  | name :: rest =>
    match fs.checkName place name with
    | .error e => .error e
    | .ok () => walk fs (next place name) rest

/-- Where the walk along a path starts. -/
def origin (fs : FileSystem) (path : String) : Place :=
  if Path.isAbsolute path then [] else fs.workingDirectory

/-- The place that a path names. The empty path names none. -/
def resolve (fs : FileSystem) (path : String) : Except FileError Place :=
  match checkPath path with
  | .error e => .error e
  | .ok () => fs.walk (fs.origin path) (Path.steps path)

/-- The path leads to a directory. -/
def isDirectory (fs : FileSystem) (path : String) : Bool :=
  match fs.resolve path with
  | .ok place => (fs.entry? place).any (·.isDirectory)
  | .error _ => false

/-- The content of a file. -/
def readFile (fs : FileSystem) (path : String) : Except FileError ByteArray :=
  match fs.resolve path with
  | .error e => .error e
  | .ok place =>
    match fs.entry? place with
    | none => .error .notFound
    | some .directory => .error .isADirectory
    | some (.file content) =>
      if Path.endsInSlash path then .error .notADirectory else .ok content

/-- The directory that a path leads into, and the name in it that the path ends with; nothing
for the root directory. -/
def resolveParent (fs : FileSystem) (path : String) : Except FileError (Option (Place × String)) :=
  match checkPath path with
  | .error e => .error e
  | .ok () =>
    match (Path.steps path).reverse with
    | [] => .ok none
    | name :: before =>
      match fs.walk (fs.origin path) before.reverse with
      | .error e => .error e
      | .ok place =>
        match fs.checkName place name with
        | .error e => .error e
        | .ok () => .ok (some (place, name))

/-- The name is that of a directory already walked through. -/
def isDots (name : String) : Bool := name = "." || name = ".."

/-- Makes a directory in one that exists. -/
def makeDirectory (fs : FileSystem) (path : String) : Except FileError FileSystem :=
  match fs.resolveParent path with
  | .error e => .error e
  | .ok none => .error .alreadyExists
  | .ok (some (place, name)) =>
    if isDots name || (fs.entry? (place ++ [name])).isSome then .error .alreadyExists
    else .ok (fs.put (place ++ [name]) .directory)

/-- Creates a file with a content, or gives a file that exists a new one. -/
def writeFile (fs : FileSystem) (path : String) (content : ByteArray) :
    Except FileError FileSystem :=
  match fs.resolveParent path with
  | .error e => .error e
  | .ok none => .error .isADirectory
  | .ok (some (place, name)) =>
    if isDots name || Path.endsInSlash path then .error .isADirectory
    else if (fs.entry? (place ++ [name])).any (·.isDirectory) then .error .isADirectory
    else .ok (fs.put (place ++ [name]) (.file content))

/-! ## Several directories

A directory and those around it are made one by one. How a single one is made is a parameter
(`makeDirectory`, or a way that may be refused), because each of them can fail on its own. -/

section
variable (make : FileSystem → String → Except FileError FileSystem)

/-- Makes a directory unless it exists. -/
def ensureDirectory (fs : FileSystem) (path : String) : Except FileError FileSystem :=
  match make fs path with
  | .ok fs => .ok fs
  | .error e => if e = .alreadyExists && fs.isDirectory path then .ok fs else .error e

/-- Goes outwards from a directory to the first one around it that exists or can be made. Gives
the file system and the directories passed, outermost first. -/
def climb (fs : FileSystem) (missing : List String) :
    List String → Except FileError (FileSystem × List String)
  | [] => .ok (fs, missing)
  | path :: outer =>
    match ensureDirectory make fs path with
    | .ok fs => .ok (fs, missing)
    | .error .notFound => climb fs (path :: missing) outer
    | .error e => .error e

/-- Makes directories one after another, where they do not exist. The file system after it is
given even if one cannot be made. -/
def makeEach (fs : FileSystem) : List String → FileSystem × Except FileError Unit
  | [] => (fs, .ok ())
  | path :: rest =>
    match ensureDirectory make fs path with
    | .ok fs => makeEach fs rest
    | .error e => (fs, .error e)

/-- Makes a directory and all directories around it that are missing. -/
def makeDirectories (fs : FileSystem) (path : String) : FileSystem × Except FileError Unit :=
  let candidates := (Path.ancestors path).takeWhile fun a => (Path.parent? a).isSome
  match climb make fs [] candidates with
  | .error e => (fs, .error e)
  | .ok (fs, missing) => makeEach make fs missing

end

end FileSystem

end Concord
