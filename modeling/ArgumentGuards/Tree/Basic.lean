import ArgumentGuards.Location
import ArgumentGuards.Symbol.Basic

/-!
# Bound trees

Function bodies after binding: every name is resolved, and operators and calls say what they mean.
Lowering takes such bodies and gives such bodies, and so do the helpers that it generates.
-/

namespace ArgumentGuards

/-- A constant. -/
inductive Literal where
  | null
  | bool (value : Bool)
  | int (value : Int64)
  | uint (value : UInt32)
  | text (value : String)
  deriving DecidableEq

/-- An operator with one operand. -/
inductive UnaryOp where
  | not
  deriving DecidableEq, Repr

/-- An operator with two operands. -/
inductive BinaryOp where
  | equal
  | notEqual
  | lessThan
  | add
  | multiply
  | xor
  deriving DecidableEq, Repr

/-- The sign of an operator. -/
def BinaryOp.symbol : BinaryOp → String
  | .equal => "=="
  | .notEqual => "!="
  | .lessThan => "<"
  | .add => "+"
  | .multiply => "*"
  | .xor => "^"

/-- An expression. -/
inductive Expr where
  | literal (value : Literal)
  | parameter (name : String) (type : Ty)
  | localVar (name : String)
  | unary (op : UnaryOp) (operand : Expr)
  | binary (op : BinaryOp) (left right : Expr)
  /-- Whether a nullable value holds one. -/
  | hasValue (operand : Expr)
  | call (method : Method) (args : List Expr)
  | construct (constructor : Method) (args : List Expr)
  /-- The number of UTF-16 code units of a text. -/
  | length (operand : Expr)
  /-- The UTF-16 code unit of a text at an index. -/
  | charAt (operand index : Expr)

namespace Expr

/-- The value of a parameter. -/
def ofParameter (p : Parameter) : Expr := .parameter p.name p.type

/-- Whether an operand with this expression needs parentheses. -/
def isCompound : Expr → Bool
  | .unary _ _ => true
  | .binary _ _ _ => true
  | _ => false

/-- The method that an expression calls, if it is a call. -/
def callee? : Expr → Option Method
  | .call method _ => some method
  | _ => none

end Expr

mutual

/-- A statement. -/
inductive Stmt where
  | expression (expr : Expr)
  | ret (value : Option Expr)
  | conditional (condition : Expr) (thenBranch : Stmt) (elseBranch : Option Stmt)
  | throw (value : Expr)
  | assign (target : String) (value : Expr)
  | loop (condition : Expr) (body : Stmt)
  | block (block : Block)
  /-- A place where a debugger may stop; without a span it does not. -/
  | sequencePoint (span : Option Span) (statement : Stmt)

/-- Statements with the variables that they declare. -/
structure Block where
  locals : List Local
  statements : List Stmt

end

namespace Stmt

/-- A statement without the sequence points around it. -/
def inner : Stmt → Stmt
  | .sequencePoint _ statement => statement.inner
  | other => other

/-- Whether debuggers pass over the statement. -/
def isHidden : Stmt → Bool
  | .sequencePoint none _ => true
  | _ => false

/-- A statement that debuggers pass over. -/
def hidden (statement : Stmt) : Stmt := .sequencePoint none statement

/-- Statements in braces. -/
def braced (statements : List Stmt) : Stmt := .block ⟨[], statements⟩

end Stmt

/-- No variables and no statements. -/
def Block.empty : Block := ⟨[], []⟩

end ArgumentGuards
