import ArgumentGuards.Json.Printer
import ArgumentGuards.Text.Position

/-!
# What can be wrong with a JSON document

A fault is a cause and, where one is known, the number of bytes that had been taken. Causes come in
two kinds: the text is no JSON, or it is JSON of the wrong shape. The wording is in one function.
-/

namespace ArgumentGuards.Json

/-- What a document has where something else was wanted. -/
inductive Found where
  | null
  | bool (value : Bool)
  | number (value : Number)
  | string (value : String)
  | sequence
  | map
  deriving DecidableEq, Repr

/-- Why a document cannot be read. -/
inductive Cause where
  | endOfList
  | endOfObject
  | endOfString
  | endOfValue
  | expectedColon
  | expectedCommaOrBracket
  | expectedCommaOrBrace
  | expectedIdentifier
  | expectedValue
  | invalidEscape
  | invalidNumber
  | numberOutOfRange
  | controlCharacter
  | keyNotString
  | loneSurrogate
  | endOfSurrogatePair
  | trailingComma
  | trailingCharacters
  | tooDeep
  | wrongType (found : Found) (expected : String)
  | wrongValue (found : Found) (expected : String)
  | wrongLength (length : Nat) (expected : String)
  | unknownVariant (name : String) (known : List String)
  | missingField (name : String)
  | duplicateField (name : String)
  deriving DecidableEq, Repr

/-- How a message names what was found. -/
def Found.describe : Found → String
  | .null => "null"
  | .bool b => "boolean `" ++ (if b then "true" else "false") ++ "`"
  | .number (.integer n) => "integer `" ++ Int.repr n ++ "`"
  | .number (.real x) => "floating point `" ++ x.toText ++ "`"
  | .string s => "string " ++ Text.quote s
  | .sequence => "sequence"
  | .map => "map"

/-- The names that were possible. -/
def alternatives : List String → String
  | [] => "there are no variants"
  | [a] => "expected `" ++ a ++ "`"
  | [a, b] => "expected `" ++ a ++ "` or `" ++ b ++ "`"
  | names => "expected one of " ++ String.intercalate ", " (names.map fun n => "`" ++ n ++ "`")

/-- The wording of a cause. -/
def Cause.message : Cause → String
  | .endOfList => "EOF while parsing a list"
  | .endOfObject => "EOF while parsing an object"
  | .endOfString => "EOF while parsing a string"
  | .endOfValue => "EOF while parsing a value"
  | .expectedColon => "expected `:`"
  | .expectedCommaOrBracket => "expected `,` or `]`"
  | .expectedCommaOrBrace => "expected `,` or `\x7d`"
  | .expectedIdentifier => "expected ident"
  | .expectedValue => "expected value"
  | .invalidEscape => "invalid escape"
  | .invalidNumber => "invalid number"
  | .numberOutOfRange => "number out of range"
  | .controlCharacter => "control character (\\u0000-\\u001F) found while parsing a string"
  | .keyNotString => "key must be a string"
  | .loneSurrogate => "lone leading surrogate in hex escape"
  | .endOfSurrogatePair => "unexpected end of hex escape"
  | .trailingComma => "trailing comma"
  | .trailingCharacters => "trailing characters"
  | .tooDeep => "recursion limit exceeded"
  | .wrongType found expected => "invalid type: " ++ found.describe ++ ", expected " ++ expected
  | .wrongValue found expected => "invalid value: " ++ found.describe ++ ", expected " ++ expected
  | .wrongLength length expected =>
    "invalid length " ++ Nat.repr length ++ ", expected " ++ expected
  | .unknownVariant name known => "unknown variant `" ++ name ++ "`, " ++ alternatives known
  | .missingField name => "missing field `" ++ name ++ "`"
  | .duplicateField name => "duplicate field `" ++ name ++ "`"

/-- A cause and the number of bytes that had been taken, where that is known. -/
structure Fault where
  cause : Cause
  place : Option Nat
  deriving DecidableEq, Repr

/-- A fault at a place. -/
def Cause.at (cause : Cause) (place : Nat) : Fault := ⟨cause, some place⟩

/-- A fault without a place. -/
def Cause.unplaced (cause : Cause) : Fault := ⟨cause, none⟩

/-- The fault at a place, if it has none of its own. -/
def Fault.orAt (fault : Fault) (place : Nat) : Fault :=
  ⟨fault.cause, fault.place <|> some place⟩

/-- The fault without its place. -/
def Fault.unplace (fault : Fault) : Fault := fault.cause.unplaced

/-- A fault of a whole document: the place is a line and a column of its text. -/
structure DocumentError where
  cause : Cause
  position : Option Text.Position
  deriving DecidableEq, Repr

/-- A fault within a text. -/
def Fault.within (fault : Fault) (text : String) : DocumentError :=
  ⟨fault.cause, fault.place.map (Text.positionAt text)⟩

/-- The wording of a document's fault. -/
def DocumentError.message (e : DocumentError) : String :=
  match e.position with
  | none => e.cause.message
  | some p =>
    e.cause.message ++ " at line " ++ Nat.repr p.line ++ " column " ++ Nat.repr p.column

end ArgumentGuards.Json
