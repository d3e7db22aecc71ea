import ArgumentGuards.Eval.Error
import ArgumentGuards.Eval.Value

/-!
# Arguments from JSON

A JSON value is taken as an argument by the type of its parameter. Only null and numbers look at
the type: null must be admitted by it, and numbers are natural numbers of 32 bits for the type
`uint` and integers of 64 bits for every other one.
-/

namespace ArgumentGuards.Value

/-- The name under all question marks at its end. -/
def underlyingName (name : String) : String :=
  String.ofList (name.toList.reverse.dropWhile (· = '?')).reverse

/-- A number of a type. -/
def ofNumber (type : String) : Number → Option Value
  | .integer n =>
    if type = "uint" then
      if 0 ≤ n ∧ n < Int.pow 2 32 then some (.uint (UInt32.ofNat n.toNat)) else none
    else if -Int.pow 2 63 ≤ n ∧ n < Int.pow 2 63 then some (.int (Int64.ofInt n))
    else none
  | .real _ => none

/-- A JSON value that is not null as a value of a type. -/
def ofScalar (type : String) (json : Json) : Except EvalError Value :=
  match json with
  | .bool b => .ok (.bool b)
  | .string s => .ok (.text s)
  | .number n =>
    match ofNumber type n with
    | some value => .ok value
    | none => .error (.invalidArgument json type)
  | _ => .error (.invalidArgument json type)

/-- A JSON value as an argument of a type. -/
def ofJson (json : Json) (type : Ty) : Except EvalError Value :=
  match type.kind, json with
  -- a nullable value has exactly one layer around what it holds
  | .nullableValue, .null => .ok (.nullable none)
  | .nullableValue, json =>
    match ofScalar (underlyingName type.name) json with
    | .ok value => .ok (.nullable (some value))
    | .error error => .error error
  | .reference, .null => .ok .null
  | .plainValue, .null => .error (.invalidArgument .null type.name)
  | _, json => ofScalar type.name json

/-- Arguments for as many parameters as there are values for. -/
def ofJsonAll : List Json → List Parameter → Except EvalError (List Value)
  | json :: items, p :: parameters => do
    let value ← ofJson json p.type
    let more ← ofJsonAll items parameters
    return value :: more
  | _, _ => .ok []

end ArgumentGuards.Value
