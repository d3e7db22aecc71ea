/-!
# Paths

A path is text with slashes. Empty parts and single dots say nothing, except that a dot may begin a
path. Paths are ordered by their parts and not by their text, so what lies in a directory stays
together.
-/

namespace ArgumentGuards.Path

/-- A part of a path. -/
inductive Part where
  | root
  | current
  | parent
  | name (text : String)
  deriving DecidableEq, Repr

/-- Whether a path begins at the root. -/
def isAbsolute (path : String) : Bool := path.toList.head? = some '/'

/-- The texts between the slashes of some characters; `before` is the text so far, reversed. -/
def splitSlashes (before : List Char) : List Char → List String
  | [] => [String.ofList before.reverse]
  | '/' :: rest => String.ofList before.reverse :: splitSlashes [] rest
  | c :: rest => splitSlashes (c :: before) rest

/-- The texts between the slashes of a path. -/
def pieces (path : String) : List String := splitSlashes [] path.toList

/-- What a text between slashes says, unless it stands at the beginning. -/
def partOf? (piece : String) : Option Part :=
  if piece = "" ∨ piece = "." then none
  else if piece = ".." then some .parent
  else some (.name piece)

/-- The parts of a path. -/
def parts (path : String) : List Part :=
  let start := if isAbsolute path then [.root]
    else if (pieces path).head? = some "." then [.current]
    else []
  start ++ (pieces path).filterMap partOf?

/-- Whether a path is another way to write a single dot. -/
def isCurrent (path : String) : Bool := parts path = [.current]

/-- The rank of a part among those of other kinds. -/
def Part.rank : Part → Nat
  | .root => 0
  | .current => 1
  | .parent => 2
  | .name _ => 3

/-- Whether one part comes before another one. -/
def Part.before (a b : Part) : Bool :=
  match a, b with
  | .name s, .name t => s < t
  | _, _ => a.rank < b.rank

/-- Whether one path may stand before another one in a list in order. -/
def inOrder : List Part → List Part → Bool
  | [], _ => true
  | _ :: _, [] => false
  | a :: as, b :: bs => if a = b then inOrder as bs else a.before b

/-- Paths in order. -/
def sort (paths : List String) : List String :=
  paths.mergeSort fun p q => inOrder (parts p) (parts q)

/-- A path below another one. -/
def join (base piece : String) : String :=
  if isAbsolute piece ∨ base = "" then piece
  else if base.toList.getLast? = some '/' then base ++ piece
  else base ++ "/" ++ piece

/-- The name of the file that a path leads to. -/
def fileName? (path : String) : Option String :=
  match (parts path).getLast? with
  | some (.name text) => some text
  | _ => none

/-- A file name without its extension, which begins at the last dot unless the name does. -/
def stem (name : String) : String :=
  let reversed := name.toList.reverse
  match reversed.dropWhile (· ≠ '.') with
  | [] => name
  -- the only dot is the first character
  | [_] => name
  | _ :: before => String.ofList before.reverse

end ArgumentGuards.Path
