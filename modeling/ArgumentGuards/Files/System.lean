import ArgumentGuards.Files.Path

/-!
# File systems

The few things that the program asks of files, for any kind of effect, and a file system that is
a value: a tree of files and directories, from the root on. There are no links in it. A path begins
at the root, or in the working directory, which is given by the names that lead to it.
-/

namespace ArgumentGuards

/-- Why a file cannot be written. -/
structure WriteFailure where
  description : String
  code : Nat
  deriving DecidableEq, Repr

namespace WriteFailure

/-- The wording of a failure. -/
def message (f : WriteFailure) : String :=
  f.description ++ " (os error " ++ Nat.repr f.code ++ ")"

/-- A directory of the path does not exist. -/
def notFound : WriteFailure := ⟨"No such file or directory", 2⟩

/-- A part of the path is no directory. -/
def notDirectory : WriteFailure := ⟨"Not a directory", 20⟩

/-- The path leads to a directory. -/
def isDirectory : WriteFailure := ⟨"Is a directory", 21⟩

/-- The path or a name in it is longer than a file system takes. -/
def nameTooLong : WriteFailure := ⟨"File name too long", 36⟩

end WriteFailure

/-- What a directory holds under one name. -/
structure Entry where
  name : String
  isDirectory : Bool
  deriving DecidableEq, Repr

/-- What the program asks of files. -/
structure FileSystem (m : Type → Type) where
  /-- The text of a file, unless it cannot be read as UTF-8. -/
  read : String → m (Option String)
  /-- Whether a path leads anywhere. -/
  present : String → m Bool
  /-- Whether a path leads to a directory. -/
  isDirectory : String → m Bool
  /-- What a directory holds, unless it cannot be read. -/
  list : String → m (Option (List Entry))
  /-- Replaces the text of a file, or tells why not. -/
  write : String → String → m (Option WriteFailure)

/-! ## A file system as a value -/

/-- A file or a directory. -/
inductive FileTree where
  | file (content : ByteArray)
  | directory (entries : List (String × FileTree))

namespace FileTree

/-- The file or directory that some names lead to. -/
def at? : FileTree → List String → Option FileTree
  | tree, [] => some tree
  | .file _, _ :: _ => none
  | .directory entries, name :: rest =>
    match entries.lookup name with
    | none => none
    | some tree => tree.at? rest

/-- Entries with one more or a new one in place of the one with that name. -/
def insertEntry (name : String) (tree : FileTree) :
    List (String × FileTree) → List (String × FileTree)
  | [] => [(name, tree)]
  | (n, t) :: rest =>
    if n = name then (name, tree) :: rest else (n, t) :: insertEntry name tree rest

/-- The tree with something else where some names lead; directories on the way are made. -/
def put (new : FileTree) : List String → FileTree → FileTree
  | [], _ => new
  | name :: rest, .directory entries =>
    let old := (entries.lookup name).getD (.directory [])
    .directory (insertEntry name (put new rest old) entries)
  | name :: rest, .file _ => .directory [(name, put new rest (.directory []))]

/-- Whether a tree is a directory. -/
def isDirectory : FileTree → Bool
  | .file _ => false
  | .directory _ => true

/-- Whether some names lead to a directory. -/
def isDirectoryAt (tree : FileTree) (names : List String) : Bool :=
  ((tree.at? names).map isDirectory).getD false

/-- Whether a name has more bytes than the 255 that a directory can hold. -/
def isLongName (name : String) : Bool := 255 < name.utf8ByteSize

/-- Whether a path has more bytes than the 4095 that can be asked for. -/
def isLongPath (path : String) : Bool := 4095 < path.utf8ByteSize

/-- One step of a path, from where some names lead. -/
def step (tree : FileTree) (names : List String) (piece : String) :
    Except WriteFailure (List String) :=
  if !tree.isDirectoryAt names then .error .notDirectory
  else if piece = "" ∨ piece = "." then .ok names
  else if isLongName piece then .error .nameTooLong
  -- above the root there is the root again
  else if piece = ".." then .ok names.dropLast
  else
    match tree.at? (names ++ [piece]) with
    | none => .error .notFound
    | some _ => .ok (names ++ [piece])

/-- Where some pieces of a path lead. -/
def walk (tree : FileTree) : List String → List String → Except WriteFailure (List String)
  | names, [] => .ok names
  | names, piece :: rest =>
    match tree.step names piece with
    | .error failure => .error failure
    | .ok names => tree.walk names rest

/-- Where a path begins: at the root, or in the working directory. -/
def origin (path : String) (cwd : List String) : List String :=
  if Path.isAbsolute path then [] else cwd

/-- Where a path leads, from a working directory. -/
def resolve (tree : FileTree) (path : String) (cwd : List String) :
    Except WriteFailure (List String) :=
  if path = "" then .error .notFound
  else if isLongPath path then .error .nameTooLong
  else tree.walk (origin path cwd) (Path.pieces path)

/-- What a path leads to. -/
def find? (tree : FileTree) (path : String) (cwd : List String) : Option FileTree :=
  match tree.resolve path cwd with
  | .ok names => tree.at? names
  | .error _ => none

/-- The bytes of the file that a path leads to. -/
def contentAt? (tree : FileTree) (path : String) (cwd : List String) : Option ByteArray :=
  match tree.find? path cwd with
  | some (.file content) => some content
  | _ => none

/-- The text of the file that a path leads to, if it is UTF-8. -/
def textAt? (tree : FileTree) (path : String) (cwd : List String := []) : Option String :=
  (tree.contentAt? path cwd).bind String.fromUTF8?

/-- What the directory holds that a path leads to. -/
def entriesAt? (tree : FileTree) (path : String) (cwd : List String) : Option (List Entry) :=
  match tree.find? path cwd with
  | some (.directory entries) => some (entries.map fun (name, t) => ⟨name, t.isDirectory⟩)
  | _ => none

/--
The tree after a file has been written, or why it cannot be. What ends in a slash or a dot would
be a directory.
-/
def write (tree : FileTree) (path text : String) (cwd : List String) :
    Except WriteFailure FileTree := do
  if path = "" then throw .notFound
  if isLongPath path then throw .nameTooLong
  let (slashes, pieces) := (Path.pieces path).reverse.span (· = "")
  match pieces with
  | [] => throw .isDirectory
  | last :: above =>
    -- what stands before the last name must lead to a directory
    let names ← tree.walk (origin path cwd) above.reverse
    if !tree.isDirectoryAt names then throw .notDirectory
    if !slashes.isEmpty ∨ last = "." ∨ last = ".." then throw .isDirectory
    if isLongName last then throw .nameTooLong
    match tree.at? (names ++ [last]) with
    | some (.directory _) => throw .isDirectory
    | _ => return put (.file text.toUTF8) (names ++ [last]) tree

end FileTree

/-- The file system of a tree, for who is in a directory of it: writing changes the tree. -/
def FileTree.system (cwd : List String := []) : FileSystem (StateM FileTree) where
  read path := return (← get).textAt? path cwd
  present path := return (← get).resolve path cwd |>.toBool
  isDirectory path := return ((← get).find? path cwd).any FileTree.isDirectory
  list path := return (← get).entriesAt? path cwd
  write path text := do
    match (← get).write path text cwd with
    | .ok tree => do
      set tree
      return none
    | .error failure => return some failure

end ArgumentGuards
