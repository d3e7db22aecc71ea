import ArgumentGuards.Files.Discovery
import ArgumentGuards.Report
import ArgumentGuards.Tree.Json

/-!
# Module sources

A module is read from a document of functions whose bodies are bound already. The document may name
the module; otherwise the module has the name of its file. Parameters are numbered by their
position, whatever the document says.
-/

namespace ArgumentGuards

open Json

/-- A function of a module source. -/
structure SourceFunction where
  name : String
  parameters : List Parameter
  returnType : Ty
  body : Block

namespace SourceFunction

/-- The fields of a function. -/
def record : Record SourceFunction where
  label := "struct FunctionDecl"
  fields :=
    .cons ⟨"name", Decoder.string, .required⟩ <|
    .cons ⟨"parameters", Decoder.list Parameter.decode, .defaulted []⟩ <|
    .cons ⟨"return_type", Ty.decode, .defaulted .void⟩ <|
    .cons ⟨"body", Block.decode, .defaulted .empty⟩ .nil
  build := fun (name, parameters, returnType, body, ()) => ⟨name, parameters, returnType, body⟩

/-- Reads a function. -/
def decode : Decoder SourceFunction := record.decoder

/-- Writes a function. -/
def toJson (f : SourceFunction) : Json :=
  .object [("name", .string f.name), ("parameters", .array (f.parameters.map Parameter.toJson)),
    ("return_type", f.returnType.toJson), ("body", f.body.toJson)]

/-- The function with its parameters numbered by position. -/
def numbered (f : SourceFunction) : SourceFunction :=
  { f with parameters := f.parameters.mapIdx fun i p => { p with ordinal := UInt64.ofNat i } }

end SourceFunction

/-- A module as it is read. -/
structure SourceModule where
  name : String
  /-- The file that the module was read from. -/
  path : Option String
  functions : List SourceFunction

/-- Why no module can be had. -/
inductive SourceError where
  /-- A file that cannot be read. -/
  | missing (path : String)
  /-- A document of the wrong form, by the name of the module and the file. -/
  | malformed (module file : String) (error : DocumentError)
  /-- A pattern of the wrong form. -/
  | badPattern (pattern : String) (error : PatternError)

namespace SourceError

/-- The wording of an error. -/
def message : SourceError → String
  | .missing path => "Missing module source at " ++ Text.quote path
  | .malformed module _ error => "Malformed module `" ++ module ++ "`: " ++ error.message
  | .badPattern pattern error => "Invalid module pattern `" ++ pattern ++ "`: " ++ error.message

/-- The place of an error: only a document has places. -/
def location? : SourceError → Option Location
  | .malformed _ file error =>
    let position := error.position.getD ⟨0, 0⟩
    some ⟨file, UInt64.ofNat position.line, UInt64.ofNat position.column⟩
  | _ => none

/-- The error with its place in another file. -/
def inFile (path : String) : SourceError → SourceError
  | .malformed module _ error => .malformed module path error
  | other => other

/-- The report of an error. -/
def report (e : SourceError) : Report where
  level := .error
  message := e.message
  issuer := "nullguard.source"
  location := e.location?
  span := e.location?.map Span.point

/-- The wording of an error with its place. -/
def render (e : SourceError) : String :=
  match e.location? with
  | some here => e.message ++ " (at " ++ here.render ++ ")"
  | none => e.message

end SourceError

namespace SourceModule

/-- The name and the functions of a module document. -/
def record : Record (Option String × List SourceFunction) where
  label := "struct ModuleDocument"
  fields :=
    .cons ⟨"name", Decoder.option Decoder.string, .optional none⟩ <|
    .cons ⟨"functions", Decoder.list SourceFunction.decode, .defaulted []⟩ .nil
  build := fun (name, functions, ()) => (name, functions)

/-- A module of some functions. -/
def ofFunctions (name : String) (functions : List SourceFunction) : SourceModule :=
  ⟨name, none, functions.map SourceFunction.numbered⟩

/-- The module of a document, with a name for one that has none. -/
def ofText (defaultName text : String) : Except SourceError SourceModule :=
  match decodeText record.decoder text with
  | .ok (name, functions) => .ok (ofFunctions (name.getD defaultName) functions)
  | .error error => .error (.malformed defaultName defaultName error)

/-- The module of a file. -/
def load {m : Type → Type} [Monad m] (fs : FileSystem m) (path : String) :
    m (Except SourceError SourceModule) := do
  match ← fs.read path with
  | none => return .error (.missing path)
  | some text =>
    match ofText (((Path.fileName? path).map Path.stem).getD "") text with
    | .ok source => return .ok { source with path := some path }
    | .error error => return .error (error.inFile path)

/-- The files that match a pattern, in order. -/
def discover {m : Type → Type} [Monad m] (fs : FileSystem m) (pattern : String) :
    m (Except SourceError (List String)) :=
  match PathPattern.parse pattern with
  | .ok parsed => do return .ok (← parsed.discover fs)
  | .error error => return .error (.badPattern pattern error)

/-- The first function of a name. -/
def function? (source : SourceModule) (name : String) : Option SourceFunction :=
  source.functions.find? (·.name = name)

/-- What a module is called, with its file if it has one. -/
def render (source : SourceModule) : String :=
  match source.path with
  | some path => "module " ++ source.name ++ " at " ++ Text.quote path
  | none => "module " ++ source.name

end SourceModule

end ArgumentGuards
