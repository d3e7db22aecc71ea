import ArgumentGuards.Json.Printer
import ArgumentGuards.Report

/-!
# Why an evaluation has no result

A program that throws has a result. These are the faults of a program that cannot be evaluated, and
of arguments that are not of their parameter's type.
-/

namespace ArgumentGuards

/-- Why an evaluation has no result. -/
inductive EvalError where
  | unknownFunction (name : String)
  | unknownVariable (name : String)
  /-- A function is called with too many or too few arguments. -/
  | arity (name : String) (expected found : Nat)
  /-- An operation is applied to values that it is not made for. -/
  | typeMismatch (operation : String)
  /-- An argument is not of a type. -/
  | invalidArgument (argument : Json) (type : String)
  /-- More statements than the limit were begun. -/
  | stepLimit (limit : Nat)
  /-- More calls than the limit were nested. -/
  | callDepth (limit : Nat) (name : String)

namespace EvalError

/-- The wording of an error. -/
def message : EvalError → String
  | .unknownFunction name => "no function named `" ++ name ++ "`"
  | .unknownVariable name => "`" ++ name ++ "` is not in scope"
  | .arity name expected found =>
    "`" ++ name ++ "` takes " ++ Nat.repr expected ++ " argument(s), " ++ Nat.repr found ++ " given"
  | .typeMismatch operation => "type mismatch in " ++ operation
  | .invalidArgument argument type =>
    "`" ++ argument.canonical.compact ++ "` is not a value of type `" ++ type ++ "`"
  | .stepLimit limit => "step limit of " ++ Nat.repr limit ++ " exceeded"
  | .callDepth limit name =>
    "call depth of " ++ Nat.repr limit ++ " exceeded in `" ++ name ++ "`"

/-- The report of an error. -/
def report (e : EvalError) : Report where
  level := .error
  message := e.message
  issuer := "nullguard.eval"

end EvalError

end ArgumentGuards
