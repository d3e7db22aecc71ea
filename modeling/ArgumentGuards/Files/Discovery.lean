import ArgumentGuards.Files.Pattern
import ArgumentGuards.Files.System

/-!
# Finding files by a pattern

A pattern for paths is a pattern for each part. Parts without wildcards are followed without
listing a directory. Dots for the current and the parent directory are no names in a directory, so
only a pattern that begins with a dot can mean them.

The result is sorted by the parts of the paths, which `a` and `a/.` have in common. Such paths keep
the order in which they are found: dots before names, and a path before what is below it.
-/

namespace ArgumentGuards

/-- A pattern for paths. -/
structure PathPattern where
  /-- Where the search begins. -/
  scope : String
  parts : List Pattern
  /-- Whether only directories are wanted. -/
  directoriesOnly : Bool

namespace PathPattern

/-- The texts between slashes, without the empty one after a slash at the end. -/
def terminated (cs : List Char) : List String :=
  let pieces := Path.splitSlashes [] cs
  if pieces.getLast? = some "" then pieces.dropLast else pieces

/-- A pattern from its text. -/
def parse (text : String) : Except PatternError PathPattern := do
  let _ ← Pattern.parse text
  let absolute := Path.isAbsolute text
  let below := if absolute then text.toList.drop 1 else text.toList
  let parts ← (terminated below).mapM Pattern.parse
  return {
    scope := if absolute then "/" else "."
    parts := if below.isEmpty then parts ++ [[]] else parts
    directoriesOnly := text.toList.getLast? = some '/' }

/-- The path of a name in a directory. -/
def below (directory name : String) : String :=
  if Path.isCurrent directory then name else Path.join directory name

/-- The parts after the recursive ones at the beginning, which say no more than one of them. -/
def afterRecursive : List Pattern → List Pattern
  | [] => []
  | p :: rest => if p.isRecursive then afterRecursive rest else p :: rest

/-- A path that has been found, and whether it leads to a directory. -/
structure Found where
  path : String
  isDirectory : Bool

/-- What a directory holds under a name, as something found. -/
def Found.entry (directory : Found) (entry : Entry) : Found :=
  ⟨below directory.path entry.name, entry.isDirectory⟩

section

variable {m : Type → Type} [Monad m] (fs : FileSystem m) (directoriesOnly : Bool)

/-- A path as something found. -/
def find (path : String) : m Found := return ⟨path, ← fs.isDirectory path⟩

/-- A path that matches all parts, unless only directories are wanted and it is none. -/
def result (found : Found) : List String :=
  if directoriesOnly && !found.isDirectory then [] else [found.path]

/-- The results for each of some things, one after the other. -/
def gather {α : Type} (f : α → m (List String)) : List α → m (List String)
  | [] => return []
  | a :: rest => do return (← f a) ++ (← gather f rest)

mutual

/-- The paths below a directory that match some parts. -/
def search : Nat → List Pattern → Found → m (List String)
  | 0, _, _ => return []
  | _ + 1, [], _ => return []
  | bound + 1, part :: rest, here => do
    let reach (path : String) : m (List String) := do
      let next ← find fs path
      if rest.isEmpty then return result directoriesOnly next else search bound rest next
    match part.literal? with
    | some name =>
      let next := below here.path name
      let special := name = "." || name = ".."
      let reached ← if special then pure here.isDirectory else fs.present next
      if reached then reach next else return []
    | none =>
      if !here.isDirectory then return []
      let some entries ← fs.list here.path | return []
      -- names come from the directory, dots only from the pattern
      let dots := if part.head? = some (.char '.') then ["..", "."].filter part.matchName else []
      let special ← gather (fun dot => reach (Path.join here.path dot)) dots
      return special ++ (← gather (consider bound (part :: rest) here) entries)

/-- The paths that match some parts, the first of which an entry of a directory is to match. -/
def consider : Nat → List Pattern → Found → Entry → m (List String)
  | 0, _, _, _ => return []
  | bound + 1, parts, directory, entry => do
    let here := directory.entry entry
    let remaining := afterRecursive parts
    let recursive := remaining.length < parts.length
    -- two stars stay in front of what is below, and also stand for no directory at all
    let deeper ←
      if recursive && here.isDirectory then search bound ([.directories] :: remaining) here
      else pure []
    match remaining with
    | [] => return (if here.isDirectory then [here.path] else []) ++ deeper
    | part :: rest =>
      if !part.matchName entry.name then return deeper
      else if rest.isEmpty then return result directoriesOnly here ++ deeper
      else return (← search bound rest here) ++ deeper

end

/--
How far a search goes. A step uses up a part of the pattern or enters a directory, which makes the
path longer: past 4095 bytes no directory can be read.
-/
def steps (parts : List Pattern) : Nat := parts.length + 2 * 4096

/-- The paths that match a pattern, in order. -/
def discover (pattern : PathPattern) : m (List String) := do
  let start ← find fs pattern.scope
  let found ← search fs pattern.directoriesOnly (steps pattern.parts) pattern.parts start
  return Path.sort found

end

end PathPattern

end ArgumentGuards
