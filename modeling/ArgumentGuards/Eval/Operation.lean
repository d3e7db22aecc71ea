import ArgumentGuards.Eval.Error
import ArgumentGuards.Eval.Value
import ArgumentGuards.Text.Utf16

/-!
# Operations on values

What operators do with the values of their operands. Integers wrap around. An operation on an absent
text throws, as does an index out of range; on values of other types it is a fault.
-/

namespace ArgumentGuards

/-- How an evaluation ends before its end. -/
inductive Interrupt where
  /-- By an exception of the program. -/
  | thrown (exception : Value)
  /-- By a fault of the evaluation. -/
  | fault (error : EvalError)

/-- An exception with one text. -/
def exceptionOf (className text : String) : Interrupt := .thrown (.object className [.text text])

/-- The exception for an operation on an absent value. -/
def nullReference (operation : String) : Interrupt :=
  exceptionOf "System.NullReferenceException" operation

/-- The exception for an index that is out of range. -/
def indexOutOfRange : Interrupt := exceptionOf "System.IndexOutOfRangeException" "index"

/-- The fault of an operation that is not made for its values. -/
def mismatch (operation : String) : Interrupt := .fault (.typeMismatch operation)

namespace UnaryOp

/-- The result of an operator. -/
def apply : UnaryOp → Value → Except Interrupt Value
  | .not, .bool b => .ok (.bool !b)
  | .not, _ => .error (mismatch "`!`")

end UnaryOp

namespace BinaryOp

/-- The fault of an operator that is not made for its values. -/
def mismatched (op : BinaryOp) : Except Interrupt Value :=
  .error (mismatch ("`" ++ op.symbol ++ "`"))

/-- The result of an operator. -/
def apply (op : BinaryOp) (left right : Value) : Except Interrupt Value :=
  match op, left, right with
  | .equal, a, b => .ok (.bool (a.equal b))
  | .notEqual, a, b => .ok (.bool !(a.equal b))
  | .lessThan, .int a, .int b => .ok (.bool (a < b))
  | .lessThan, .uint a, .uint b => .ok (.bool (a < b))
  | .add, .int a, .int b => .ok (.int (a + b))
  | .add, .uint a, .uint b => .ok (.uint (a + b))
  | .add, .text a, .text b => .ok (.text (a ++ b))
  | .multiply, .int a, .int b => .ok (.int (a * b))
  | .multiply, .uint a, .uint b => .ok (.uint (a * b))
  | .xor, .int a, .int b => .ok (.int (a ^^^ b))
  | .xor, .uint a, .uint b => .ok (.uint (a ^^^ b))
  | op, _, _ => op.mismatched

end BinaryOp

namespace Value

/-- Whether a nullable value holds one. -/
def holdsValue : Value → Except Interrupt Value
  | .nullable inner => .ok (.bool inner.isSome)
  | _ => .error (mismatch "hasValue")

/-- The length of a text. -/
def textLength : Value → Except Interrupt Value
  | .text s => .ok (.int (Int64.ofNat (Text.unitCount s)))
  | .null => .error (nullReference "Length")
  | _ => .error (mismatch "Length")

/-- The code unit of a text at an index. -/
def codeUnit (target index : Value) : Except Interrupt Value :=
  match target, index with
  -- an absent text throws whatever the index is
  | .null, _ => .error (nullReference "indexer")
  | .text s, .int i =>
    if i < 0 then .error indexOutOfRange
    else
      match Text.unitAt? s.toList i.toInt.toNat with
      | some unit => .ok (.uint unit)
      | none => .error indexOutOfRange
  | _, _ => .error (mismatch "indexer")

/-- The truth of a condition. -/
def truth : Value → Except Interrupt Bool
  | .bool b => .ok b
  | _ => .error (mismatch "condition")

/-- What a variable holds before it is assigned. -/
def initial (type : Ty) : Value :=
  match type.kind with
  | .nullableValue => .nullable none
  | .reference => .null
  | .plainValue =>
    if type.name = "uint" then .uint 0
    else if type.name = "bool" then .bool false
    else .int 0

end Value

end ArgumentGuards
