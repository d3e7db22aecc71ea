import ArgumentGuards.Eval.Statement
import ArgumentGuards.Module.Lowered

/-!
# Evaluating lowered modules

The interpreter runs functions of a lowered module and the members that they call. A call goes down
one level of calls, of which there are as many as the limit allows.
-/

namespace ArgumentGuards

/-- What is called: a function or a member, by the name that errors give it. -/
structure Callee where
  name : String
  parameters : List Parameter
  body : Block

/-- The module and the bounds of runs in it. -/
structure Interpreter where
  lowered : LoweredModule
  limits : Limits := {}

namespace Interpreter

/-- The function that a name calls: of several the last one. -/
def function? (i : Interpreter) (name : String) : Option Callee :=
  (i.lowered.functions.reverse.find? (·.name = name)).map fun f => ⟨f.name, f.parameters, f.body⟩

/-- The member that a name calls. -/
def member? (i : Interpreter) (name : String) : Option Callee :=
  (i.lowered.module.members.get? name).map fun m => ⟨m.name, m.symbol.parameters, m.body⟩

/-- What a method calls: members by a synthesized method, functions by an ordinary one. -/
def resolve (i : Interpreter) (method : Method) : Except EvalError Callee :=
  match method.kind with
  | .synthesized =>
    match i.member? method.name with
    | some callee => .ok callee
    | none => .error (.unknownFunction method.qualifiedName)
  | .ordinary =>
    match i.function? method.name with
    | some callee => .ok callee
    | none => .error (.unknownFunction method.name)
  | .constructor => .error (.typeMismatch "direct constructor call")

/-- Runs the body of a call one level down. However it ends, the level is left. -/
def runBody (limits : Limits) (call : Caller) (callee : Callee) (args : List Value) :
    Metered Value := fun meter =>
  let frame := Frame.ofArguments callee.parameters args
  match callee.body.exec limits call ⟨{ meter with depth := meter.depth + 1 }, frame⟩ with
  | .ok completion machine => .ok completion.result { machine.meter with depth := meter.depth }
  | .error interrupt machine => .error interrupt { machine.meter with depth := meter.depth }

/-- The fault of a call that is nested too deep. -/
def tooDeep (limits : Limits) (callee : Callee) : Metered Value :=
  throw (.fault (.callDepth limits.depth callee.name))

/-- Enters a call if the arguments are as many as the parameters and a level is left. -/
def enter (limits : Limits) (callee : Callee) (args : List Value) (run : Metered Value) :
    Metered Value := fun meter =>
  -- the number of arguments is looked at first
  if callee.parameters.length ≠ args.length then
    .error (.fault (.arity callee.name callee.parameters.length args.length)) meter
  else if limits.depth ≤ meter.depth then tooDeep limits callee meter
  else run meter

/-- Calls with so many levels left, which are as many as the limit leaves. -/
def callWithin (i : Interpreter) : Nat → Callee → List Value → Metered Value
  | 0, callee, args => enter i.limits callee args (tooDeep i.limits callee)
  | levels + 1, callee, args =>
    let call : Caller := fun method args =>
      match i.resolve method with
      | .ok callee => i.callWithin levels callee args
      | .error error => throw (.fault error)
    enter i.limits callee args (runBody i.limits call callee args)

/-- How an invocation ends, and its counters then. -/
def run (i : Interpreter) (name : String) (args : List Value) :
    EStateM.Result Interrupt Meter Value :=
  match i.function? name with
  | some callee => i.callWithin i.limits.depth callee args .zero
  | none => .error (.fault (.unknownFunction name)) .zero

end Interpreter

/-- The result of an invocation. -/
inductive Outcome where
  | returned (value : Value)
  | threw (exception : Value)

namespace Outcome

/-- Whether an exception was thrown. -/
def isThrow : Outcome → Bool
  | .returned _ => false
  | .threw _ => true

/-- The line that tells an outcome. -/
def render (function : String) : Outcome → String
  | .returned value => "ok " ++ function ++ " returned " ++ value.render
  | .threw exception => "exception " ++ function ++ " threw " ++ exception.render

end Outcome

/-- Invokes a function of a module. -/
def Interpreter.invoke (i : Interpreter) (name : String) (args : List Value) :
    Except EvalError Outcome :=
  match i.run name args with
  | .ok value _ => .ok (.returned value)
  | .error (.thrown exception) _ => .ok (.threw exception)
  | .error (.fault error) _ => .error error

end ArgumentGuards
