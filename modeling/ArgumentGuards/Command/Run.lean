import ArgumentGuards.Command.Arguments
import ArgumentGuards.Eval.Argument
import ArgumentGuards.Eval.Interpreter
import ArgumentGuards.Lowering.Module
import ArgumentGuards.Module.Summary

/-!
# Running commands

A command reads files, and ends with an exit code or with an error: zero for success, one if an
invoked function threw. What it prints goes to a console, as soon as it is known; an error goes
there too, and has the exit code two. Only `lower` writes a file, and only if it is told to.
-/

namespace ArgumentGuards.Command

/-- What commands themselves find wrong. -/
inductive Fault where
  | noMatch (pattern : String)
  | unwritable (path : String) (failure : WriteFailure)
  | malformedArguments (error : Json.DocumentError)
  | argumentsNotList

namespace Fault

/-- The wording of a fault. -/
def message : Fault → String
  | .noMatch pattern => "no module matches `" ++ pattern ++ "`"
  | .unwritable path failure => "could not write " ++ Text.quote path ++ ": " ++ failure.message
  | .malformedArguments error => "arguments are not valid JSON: " ++ error.message
  | .argumentsNotList => "arguments must be a JSON array"

/-- The report of a fault. -/
def report (fault : Fault) : Report where
  level := .error
  message := fault.message
  issuer := "nullguard.cli"

end Fault

/-- The options that a number of workers makes. -/
def loweringOptions (workers : Option Nat) : LoweringOptions :=
  { workers := max 1 (workers.getD 1) }

/-- A lowered module in a format. -/
def Format.render (format : Format) (lowered : LoweredModule) : String :=
  match format with
  | .text => lowered.render
  | .json => lowered.toJson.canonical.pretty ++ "\n"

/-- Where a command finds files, and identifiers for its modules. -/
structure Environment (m : Type → Type) where
  files : FileSystem m
  freshId : m String

/-- Where a command prints. -/
structure Console (m : Type → Type) where
  /-- Prints to the standard output. -/
  out : String → m Unit
  /-- Prints to the standard error. -/
  err : String → m Unit

/-- Prints a line. -/
def Console.line {m : Type → Type} (console : Console m) (text : String) : m Unit :=
  console.out (text ++ "\n")

section

variable {m : Type → Type} [Monad m]

namespace Environment

/-- Loads and lowers the module of a file. -/
def lower (env : Environment m) (options : LoweringOptions) (path : String) :
    m (Except Report LoweredModule) := do
  lowerFile env.files path (← env.freshId) options

/-- Loads and lowers the modules of some files, up to the first error. -/
def lowerAll (env : Environment m) (options : LoweringOptions) :
    List String → m (Except Report (List LoweredModule))
  | [] => return .ok []
  | path :: rest => do
    match ← env.lower options path with
    | .error report => return .error report
    | .ok lowered => return (← env.lowerAll options rest).map (lowered :: ·)

end Environment

end

/-! ## Commands

Files belong to one kind of effect and the console to another one that extends it, so what only
reads files cannot print. -/

section

variable {m n : Type → Type} [Monad m] [Monad n] [MonadLiftT m n]

/-- Prints a lowered module, or writes it to a file. -/
def runLower (env : Environment m) (console : Console n) (file : String) (format : Format)
    (options : LoweringOptions) (output : Option String) : n (Except Report UInt8) := do
  match ← env.lower options file, output with
  | .error report, _ => return .error report
  | .ok lowered, none => do
    console.out (format.render lowered)
    return .ok 0
  | .ok lowered, some path =>
    match ← env.files.write path (format.render lowered) with
    | none => return .ok 0
    | some failure => return .error (Fault.unwritable path failure).report

/-- Tabulates the modules that match a pattern. -/
def runSummary (env : Environment m) (console : Console n) (pattern : String)
    (options : LoweringOptions) : n (Except Report UInt8) := do
  let found : m (Except SourceError (List String)) := SourceModule.discover env.files pattern
  match ← found with
  | .error error => return .error error.report
  | .ok [] => return .error (Fault.noMatch pattern).report
  | .ok paths =>
    match ← env.lowerAll options paths with
    | .error report => return .error report
    | .ok modules => do
      console.line "Null guards"
      console.line (Summary.table modules).render
      console.line (Summary.footer modules)
      return .ok 0

/-- The arguments of an invocation, from JSON text: as many values as there are parameters. -/
def readArguments (f : LoweredFunction) (text : String) : Except Report (List Value) :=
  match Json.decodeText Json.Decoder.json text with
  | .error error => .error (Fault.malformedArguments error).report
  | .ok (.array items) =>
    if items.length ≠ f.parameters.length then
      .error (EvalError.arity f.name f.parameters.length items.length).report
    else (Value.ofJsonAll items f.parameters).mapError EvalError.report
  | .ok _ => .error Fault.argumentsNotList.report

/-- Invokes a function of a lowered module. -/
def invoke (lowered : LoweredModule) (name args : String) : Except Report Outcome :=
  match lowered.function? name with
  | none => .error (EvalError.unknownFunction name).report
  | some f => do
    let values ← readArguments f args
    (Interpreter.invoke { lowered } name values).mapError EvalError.report

/-- Invokes a function of the module of a file. -/
def runFunction (env : Environment m) (console : Console n) (file name args : String) :
    n (Except Report UInt8) := do
  match ← env.lower {} file with
  | .error report => return .error report
  | .ok lowered =>
    match invoke lowered name args with
    | .error report => return .error report
    | .ok outcome => do
      console.line (outcome.render name)
      return .ok (if outcome.isThrow then 1 else 0)

/-- Does what a request asks for. -/
def Request.perform (env : Environment m) (console : Console n) :
    Request → n (Except Report UInt8)
  | .lower file format workers output =>
    runLower env console file format (loweringOptions workers) output
  | .summary pattern workers => runSummary env console pattern (loweringOptions workers)
  | .run file function args => runFunction env console file function args

/-! ## Whole command lines -/

/-- The version of the program. -/
def versionText : String := "nullguard 0.1.0\n"

/-- How the program is called. -/
def usage : String :=
  "Usage: nullguard lower <file> [--format text|json] [--workers N] [--output FILE]\n"
    ++ "       nullguard summary <pattern> [--workers N]\n"
    ++ "       nullguard run <file> <function> [args]\n"

/-- What the program is for, and how it is called. -/
def helpText : String := "Lowers null-checked parameters into argument guards\n\n" ++ usage

/-- Answers a command line that asks for nothing to be done. -/
def Stop.answer (console : Console n) : Stop → n UInt8
  | .help => do
    console.out helpText
    return 0
  | .version => do
    console.out versionText
    return 0
  | .misuse error => do
    console.err ("error: " ++ error.message ++ "\n\n" ++ usage)
    return 2

/-- Runs a command line, and gives the exit code. -/
def main (env : Environment m) (console : Console n) (words : List String) : n UInt8 := do
  match Request.ofWords words with
  | .error stop => stop.answer console
  | .ok request =>
    match ← request.perform env console with
    | .ok exit => return exit
    | .error report => do
      console.err (report.short ++ "\n")
      return 2

end

/-! ## What can be seen of a run -/

/-- What has been printed. -/
structure Printed where
  stdout : String := ""
  stderr : String := ""
  deriving DecidableEq, Repr

/-- The exit code of a command line, and all that it has printed. -/
structure Result extends Printed where
  exit : UInt8
  deriving DecidableEq, Repr

section

variable {m : Type → Type} [Monad m]

/-- The console that keeps what is printed. -/
def Console.recording : Console (StateT Printed m) where
  out text := modify fun printed => { printed with stdout := printed.stdout ++ text }
  err text := modify fun printed => { printed with stderr := printed.stderr ++ text }

/-- Runs a command line and keeps what it prints. -/
def execute (env : Environment m) (words : List String) : m Result := do
  let (exit, printed) ← (main env Console.recording words).run {}
  return { printed with exit }

end

end ArgumentGuards.Command
