import ArgumentGuards.Eval.Machine

/-!
# Evaluating expressions

Operands and arguments are evaluated from left to right. Expressions take no steps of their own and
leave the frame as it is; what a call does is a parameter.
-/

namespace ArgumentGuards

namespace Expr

mutual

/-- The value of an expression in a frame. -/
def eval (call : Caller) (frame : Frame) : Expr → Metered Value
  | .literal value => pure (.ofLiteral value)
  | .parameter name _ => fetch frame.parameters name
  | .localVar name => fetch frame.locals name
  | .unary op operand => do
    let value ← operand.eval call frame
    settle (op.apply value)
  | .binary op left right => do
    let a ← left.eval call frame
    let b ← right.eval call frame
    settle (op.apply a b)
  | .hasValue operand => do
    let value ← operand.eval call frame
    settle value.holdsValue
  | .call method args => do
    let values ← evalAll call frame args
    call method values
  | .construct constructor args => do
    let values ← evalAll call frame args
    return .object constructor.container values
  | .length operand => do
    let value ← operand.eval call frame
    settle value.textLength
  | .charAt operand index => do
    let target ← operand.eval call frame
    let position ← index.eval call frame
    settle (target.codeUnit position)

/-- The values of some expressions, the first one first. -/
def evalAll (call : Caller) (frame : Frame) : List Expr → Metered (List Value)
  | [] => return []
  | e :: rest => do
    let value ← e.eval call frame
    let more ← evalAll call frame rest
    return value :: more

end

end Expr

end ArgumentGuards
