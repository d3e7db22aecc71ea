/-!
# Command lines

A command line names a command and gives it arguments and options. It is read from left to right,
and the first thing that is wrong with it is its error; asking for help or for the version ends the
reading at once. An option's value is the next word, or is attached to the option: `-f json`,
`-fjson`, `-f=json`, `--format json` and `--format=json` say the same. After `--` nothing is an
option.
-/

namespace ArgumentGuards.Command

/-- The form in which a lowered module is printed. -/
inductive Format where
  | text
  | json
  deriving DecidableEq, Repr

/-- The format of a name. -/
def Format.ofName? : String → Option Format
  | "text" => some .text
  | "json" => some .json
  | _ => none

/-- What a command line asks for. -/
inductive Request where
  /-- Print a lowered module, or write it to a file. -/
  | lower (file : String) (format : Format) (workers : Option Nat) (output : Option String)
  /-- Tabulate the guards of all modules that match a pattern. -/
  | summary (pattern : String) (workers : Option Nat)
  /-- Invoke a function of a module. -/
  | run (file function args : String)
  deriving DecidableEq, Repr

/-- What is wrong with a command line. -/
inductive Misuse where
  | missingCommand
  | unknownCommand (name : String)
  | unknownOption (text : String)
  | repeatedOption (option : String)
  | missingValue (option : String)
  | unexpectedValue (option value : String)
  | invalidValue (option value : String)
  | missingArgument (name : String)
  | unexpectedArgument (text : String)
  deriving DecidableEq, Repr

/-- The wording of an error. -/
def Misuse.message : Misuse → String
  | .missingCommand => "a command is required"
  | .unknownCommand name => "there is no command " ++ name
  | .unknownOption text => "there is no option " ++ text
  | .repeatedOption option => "--" ++ option ++ " is given twice"
  | .missingValue option => "--" ++ option ++ " needs a value"
  | .unexpectedValue option value => "--" ++ option ++ " takes no value, but is given " ++ value
  | .invalidValue option value => value ++ " is no value for --" ++ option
  | .missingArgument name => "the argument " ++ name ++ " is missing"
  | .unexpectedArgument text => "there is no use for the argument " ++ text

/-- Why a command line asks for nothing to be done. -/
inductive Stop where
  | help
  | version
  | misuse (error : Misuse)
  deriving DecidableEq, Repr

/-- An option with a value. -/
structure ValuedOption where
  short : Char
  long : String
  /-- The values that the option takes. -/
  accepts : String → Bool

/-- An option that ends the reading. -/
structure StoppingOption where
  short : Char
  long : String
  stop : Stop

/-- The arguments and options of a command. -/
structure Grammar where
  stopping : List StoppingOption
  valued : List ValuedOption := []
  required : List String
  optional : List String := []

/-- The number of arguments that a command can take. -/
def Grammar.capacity (g : Grammar) : Nat := g.required.length + g.optional.length

/-! ## Words -/

/-- What a word of a command line is. -/
inductive Word where
  | separator
  | argument (text : String)
  | option (option : ValuedOption) (attached : Option String)

/-- A long option without its hyphens: its name, and what follows an equals sign. -/
def splitLong (text : List Char) : String × Option String :=
  match text.dropWhile (· ≠ '=') with
  | [] => (String.ofList text, none)
  | _ :: value => (String.ofList (text.takeWhile (· ≠ '=')), some (String.ofList value))

/-- What is attached to a short option; an equals sign in front of it does not count. -/
def attachedTo : List Char → Option String
  | [] => none
  | '=' :: value => some (String.ofList value)
  | value => some (String.ofList value)

/-- What a word with two hyphens is. -/
def longWord (g : Grammar) (text : List Char) : Except Stop Word :=
  let (name, attached) := splitLong text
  match g.stopping.find? (·.long = name), attached with
  | some option, none => .error option.stop
  | some option, some value => .error (.misuse (.unexpectedValue option.long value))
  | none, attached =>
    match g.valued.find? (·.long = name) with
    | some option => .ok (.option option attached)
    | none => .error (.misuse (.unknownOption ("--" ++ name)))

/-- What a word with one hyphen is. -/
def shortWord (g : Grammar) (short : Char) (text : List Char) : Except Stop Word :=
  match g.stopping.find? (·.short = short), g.valued.find? (·.short = short) with
  | some option, _ => .error option.stop
  | none, some option => .ok (.option option (attachedTo text))
  | none, none => .error (.misuse (.unknownOption ("-" ++ short.toString)))

/-- What a word is. A single hyphen is an argument. -/
def word (g : Grammar) (text : String) : Except Stop Word :=
  match text.toList with
  | ['-', '-'] => .ok .separator
  | '-' :: '-' :: name => longWord g name
  | '-' :: short :: attached => shortWord g short attached
  | _ => .ok (.argument text)

/-- Whether a word can be the value of the option before it. -/
def standsAsValue (text : String) : Bool := text = "-" || text.toList.head? ≠ some '-'

/-! ## Reading -/

/-- The arguments and the options of a command line, with each option's long name. -/
structure Settings where
  arguments : List String := []
  options : List (String × String) := []

namespace Settings

/-- One more argument. -/
def addArgument (g : Grammar) (s : Settings) (text : String) : Except Stop Settings :=
  if s.arguments.length < g.capacity then .ok { s with arguments := s.arguments ++ [text] }
  else .error (.misuse (.unexpectedArgument text))

/-- More arguments. -/
def addArguments (g : Grammar) : Settings → List String → Except Stop Settings
  | s, [] => .ok s
  | s, text :: rest => do addArguments g (← s.addArgument g text) rest

/-- One more option. -/
def addOption (s : Settings) (option : ValuedOption) (value : String) : Except Stop Settings :=
  if (s.options.lookup option.long).isSome then .error (.misuse (.repeatedOption option.long))
  else if option.accepts value then .ok { s with options := s.options ++ [(option.long, value)] }
  else .error (.misuse (.invalidValue option.long value))

/-- The settings with what some words add to them. -/
def read (g : Grammar) : Settings → List String → Except Stop Settings
  | s, [] => .ok s
  | s, text :: rest => do
    match ← word g text, rest with
    | .separator, rest => s.addArguments g rest
    | .argument text, rest => read g (← s.addArgument g text) rest
    | .option option (some value), rest => read g (← s.addOption option value) rest
    | .option option none, value :: rest =>
      -- the next word is the value unless it looks like an option
      if standsAsValue value then read g (← s.addOption option value) rest
      else .error (.misuse (.missingValue option.long))
    | .option option none, [] => .error (.misuse (.missingValue option.long))

/-- The settings of a command line, with all arguments that it requires. -/
def ofWords (g : Grammar) (words : List String) : Except Stop Settings := do
  let s ← read g {} words
  match g.required[s.arguments.length]? with
  | some name => .error (.misuse (.missingArgument name))
  | none => .ok s

/-- The argument at a position. -/
def argument (s : Settings) (i : Nat) (default : String) : String := (s.arguments[i]?).getD default

end Settings

/-! ## The commands -/

/-- A natural number of 64 bits, with or without a plus sign. -/
def natural? (text : String) : Option Nat :=
  let digits := match text.toList with
    | '+' :: digits => digits
    | digits => digits
  if digits.isEmpty || !digits.all Char.isDigit then none
  else
    let n := digits.foldl (fun n c => 10 * n + (c.toNat - '0'.toNat)) 0
    if n < Nat.pow 2 64 then some n else none

/-- The option for help. -/
def helpOption : StoppingOption := ⟨'h', "help", .help⟩

/-- The option for the version. -/
def versionOption : StoppingOption := ⟨'V', "version", .version⟩

/-- The option for the number of workers. -/
def workersOption : ValuedOption := ⟨'j', "workers", fun text => (natural? text).isSome⟩

/-- The option for the format. -/
def formatOption : ValuedOption := ⟨'f', "format", fun text => (Format.ofName? text).isSome⟩

/-- The option for the file to write. -/
def outputOption : ValuedOption := ⟨'o', "output", fun text => !text.isEmpty⟩

/-- What may stand before a command. -/
def commandGrammar : Grammar where
  stopping := [helpOption, versionOption]
  required := ["command"]

/-- The grammar of `lower`. -/
def lowerGrammar : Grammar where
  stopping := [helpOption]
  valued := [formatOption, workersOption, outputOption]
  required := ["file"]

/-- The grammar of `summary`. -/
def summaryGrammar : Grammar where
  stopping := [helpOption]
  valued := [workersOption]
  required := ["pattern"]

/-- The grammar of `run`. -/
def runGrammar : Grammar where
  stopping := [helpOption]
  required := ["file", "function"]
  optional := ["args"]

/-- The number of workers that some settings ask for. -/
def Settings.workers (s : Settings) : Option Nat := (s.options.lookup "workers").bind natural?

/-- The request of `lower`. -/
def readLower (words : List String) : Except Stop Request := do
  let s ← Settings.ofWords lowerGrammar words
  let format := ((s.options.lookup "format").bind Format.ofName?).getD .text
  return .lower (s.argument 0 "") format s.workers (s.options.lookup "output")

/-- The request of `summary`. -/
def readSummary (words : List String) : Except Stop Request := do
  let s ← Settings.ofWords summaryGrammar words
  return .summary (s.argument 0 "") s.workers

/-- The request of `run`. -/
def readRun (words : List String) : Except Stop Request := do
  let s ← Settings.ofWords runGrammar words
  return .run (s.argument 0 "") (s.argument 1 "") (s.argument 2 "[]")

/-- The commands by name. -/
def commands : List (String × (List String → Except Stop Request)) :=
  [("lower", readLower), ("summary", readSummary), ("run", readRun)]

/-- Help on some command, or on all. -/
def readHelp : List String → Stop
  | [] => .help
  | [name] =>
    if name = "help" || (commands.lookup name).isSome then .help
    else .misuse (.unknownCommand name)
  | _ :: extra :: _ => .misuse (.unknownCommand extra)

/-- The request of a command line. -/
def Request.ofWords : List String → Except Stop Request
  | [] => .error (.misuse .missingCommand)
  | first :: rest => do
    match ← word commandGrammar first with
    | .argument name =>
      match commands.lookup name with
      | some read => read rest
      | none => .error (if name = "help" then readHelp rest else .misuse (.unknownCommand name))
    | .separator =>
      .error (.misuse (match rest with
        | [] => .missingCommand
        | text :: _ => .unexpectedArgument text))
    | .option option _ => .error (.misuse (.unknownOption ("--" ++ option.long)))

end ArgumentGuards.Command
