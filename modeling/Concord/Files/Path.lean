/-!
# Paths

A path names a file by the directories on the way to it, divided by slashes. Repeated slashes
and dots that stand for the same directory do not count as parts, except for a dot at the very
start.
-/

namespace Concord.Path

/-- The texts between the slashes of a path. -/
def segments (path : String) : List String :=
  split [] path.toList
where
  /-- Cuts at slashes; `current` holds the characters since the last one, latest first. -/
  split (current : List Char) : List Char → List String
    | [] => [String.ofList current.reverse]
    | c :: rest =>
      if c = '/' then String.ofList current.reverse :: split [] rest
      else split (c :: current) rest

/-- The path starts at the root directory. -/
def isAbsolute (path : String) : Bool := path.toList.head? = some '/'

/-- The path ends in a slash, so that only a directory can be meant. -/
def endsInSlash (path : String) : Bool := path.toList.getLast? = some '/'

/-- The names to walk along, with dots and double dots among them. -/
def steps (path : String) : List String := (segments path).filter (· ≠ "")

/-- The segments without those at the end that name no part, given latest first; a leading dot
is a part. -/
def dropNoParts : List String → List String
  | [] => []
  | [first] => if first = "" then [] else [first]
  | last :: before => if last = "" || last = "." then dropNoParts before else last :: before

/-- Segments put together with slashes. -/
def join (segments : List String) : String := "/".intercalate segments

/-- The path of the directory that holds what the path names: empty for a single relative part,
nothing for the root directory and the empty path. -/
def parent? (path : String) : Option String :=
  match dropNoParts (segments path).reverse with
  | [] => none
  | _ :: before =>
    let kept := dropNoParts before
    if kept.isEmpty then some (if isAbsolute path then "/" else "")
    else some (join kept.reverse)

/-- The path and the paths of the directories around it, innermost first, `fuel` at most. -/
def ancestorsWithin : Nat → String → List String
  | 0, _ => []
  | fuel + 1, path =>
    match parent? path with
    | some parent => path :: ancestorsWithin fuel parent
    | none => [path]

/-- The path and the paths of the directories around it, innermost first. A path has fewer parts
than characters. -/
def ancestors (path : String) : List String := ancestorsWithin (path.length + 1) path

end Concord.Path
