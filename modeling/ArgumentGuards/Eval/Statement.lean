import ArgumentGuards.Eval.Expression

/-!
# Executing statements

Execution follows the syntax. A loop comes round at most once for each step that is left, since its
body takes one, so the steps bound its rounds.
-/

namespace ArgumentGuards

/-- Executes a body as long as a test holds, at most so many times. -/
def repeatWhile (limits : Limits) (test : Stepped Bool) (body : Stepped Completion) :
    Nat → Stepped Completion
  | 0 => throw (.fault (.stepLimit limits.steps))
  | times + 1 => do
    if ← test then
      match ← body with
      | .normal => repeatWhile limits test body times
      | .returned value => return .returned value
    else return .normal

/-- The most rounds that a loop can make: every round takes a step, and one more is a fault. -/
def roundsLeft (limits : Limits) (machine : Machine) : Nat :=
  limits.steps + 1 - machine.meter.steps

namespace Stmt

/-- The truth of a condition in the frame of the machine. -/
def test (call : Caller) (condition : Expr) : Stepped Bool :=
  inFrame fun frame => do settle (← condition.eval call frame).truth

mutual

/-- Executes a statement. -/
def exec (limits : Limits) (call : Caller) : Stmt → Stepped Completion
  | .expression expr => do
    takeStep limits
    let _ ← inFrame (expr.eval call)
    return .normal
  | .ret none => do
    takeStep limits
    return .returned .null
  | .ret (some expr) => do
    takeStep limits
    return .returned (← inFrame (expr.eval call))
  | .conditional condition thenBranch none => do
    takeStep limits
    if ← test call condition then thenBranch.exec limits call else return .normal
  | .conditional condition thenBranch (some elseBranch) => do
    takeStep limits
    if ← test call condition then thenBranch.exec limits call else elseBranch.exec limits call
  | .throw expr => do
    takeStep limits
    let exception ← inFrame (expr.eval call)
    MonadExcept.throw (Interrupt.thrown exception)
  | .assign target expr => do
    takeStep limits
    let value ← inFrame (expr.eval call)
    ArgumentGuards.assign target value
    return .normal
  | .loop condition body => do
    takeStep limits
    -- the loop's own step is taken already
    let rounds := roundsLeft limits (← get)
    repeatWhile limits (test call condition) (body.exec limits call) rounds
  | .block ⟨locals, statements⟩ => do
    takeStep limits
    withLocals locals (execAll limits call statements)
  | .sequencePoint _ statement => do
    takeStep limits
    statement.exec limits call

/-- Executes statements up to the first one that returns. -/
def execAll (limits : Limits) (call : Caller) : List Stmt → Stepped Completion
  | [] => return .normal
  | s :: rest => do
    match ← s.exec limits call with
    | .normal => execAll limits call rest
    | .returned value => return .returned value

end

end Stmt

/-- Executes the statements of a block with its variables. -/
def Block.exec (limits : Limits) (call : Caller) (b : Block) : Stepped Completion :=
  withLocals b.locals (Stmt.execAll limits call b.statements)

end ArgumentGuards
