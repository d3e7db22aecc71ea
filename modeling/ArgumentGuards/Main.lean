import ArgumentGuards.Command.Run
import ArgumentGuards.Module.Identifier

/-!
# The program

Runs a command line on the files of the machine.
-/

namespace ArgumentGuards

/-- A path as a place on the disk. -/
def onDisk (path : String) : IO.FS.DirEntry := ⟨path, ""⟩

/-- What an operation gives, unless it fails. -/
def attempt {α : Type} (operation : IO α) : IO (Option α) := do
  try return some (← operation) catch _ => return none

/-- Why the disk refused to write. -/
def writeFailure : IO.Error → WriteFailure
  | .noFileOrDirectory _ code details => ⟨details, code.toNat⟩
  | .inappropriateType _ code details => ⟨details, code.toNat⟩
  | .permissionDenied _ code details => ⟨details, code.toNat⟩
  | .resourceExhausted _ code details => ⟨details, code.toNat⟩
  | .resourceBusy code details => ⟨details, code.toNat⟩
  | .invalidArgument _ code details => ⟨details, code.toNat⟩
  | .hardwareFault code details => ⟨details, code.toNat⟩
  | other => ⟨toString other, 5⟩

/-- The files of the machine. -/
def diskFiles : FileSystem IO where
  read path := do
    let bytes ← attempt (IO.FS.readBinFile path)
    return bytes.bind String.fromUTF8?
  present path := (onDisk path).root.pathExists
  isDirectory path := (onDisk path).root.isDir
  list path := do
    let some entries ← attempt (onDisk path).root.readDir | return none
    let entries ← entries.toList.mapM fun entry => do
      return ⟨entry.fileName, ← entry.path.isDir⟩
    return some entries
  write path text := do
    try
      IO.FS.writeFile path text
      return none
    catch error => return some (writeFailure error)

/-- The machine's files, and identifiers from its source of randomness. -/
def machine : Command.Environment IO where
  files := diskFiles
  freshId := do
    let bytes ← IO.getRandomBytes (USize.ofNat Identifier.size)
    return Identifier.ofBytes bytes.toList

/-- The terminal of the machine. -/
def terminal : Command.Console IO where
  out text := IO.print text
  err text := IO.eprint text

end ArgumentGuards

/-- Runs a command line and ends with its exit code. -/
def main (words : List String) : IO UInt32 := do
  let exit ← ArgumentGuards.Command.main ArgumentGuards.machine ArgumentGuards.terminal words
  return exit.toUInt32
