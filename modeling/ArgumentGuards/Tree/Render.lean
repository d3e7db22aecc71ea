import ArgumentGuards.Text.Quoted
import ArgumentGuards.Tree.Basic

/-!
# The text of bound trees

A statement is shown on one line, and a block as lines: one for each variable, then those of its
statements. Only directly in a block do sequence points show: a hidden one stands between markers.
Operands are in parentheses where an operator stands in them.
-/

namespace ArgumentGuards

/-- The text of a constant. -/
def Literal.render : Literal → String
  | .null => "null"
  | .bool true => "true"
  | .bool false => "false"
  | .int n => Int.repr n.toInt
  | .uint n => Nat.repr n.toNat ++ "u"
  | .text s => Text.quote s

namespace Expr

/-- An operand's text, in parentheses if an operator stands in it. -/
def parenthesize (e : Expr) (text : String) : String :=
  if e.isCompound then "(" ++ text ++ ")" else text

mutual

/-- The text of an expression. -/
def render : Expr → String
  | .literal value => value.render
  | .parameter name _ => name
  | .localVar name => name
  | .unary .not operand => "!" ++ parenthesize operand operand.render
  | .binary op left right =>
    parenthesize left left.render ++ " " ++ op.symbol ++ " " ++ parenthesize right right.render
  | .hasValue operand => "hasValue(" ++ operand.render ++ ")"
  | .call method args => method.name ++ "(" ++ String.intercalate ", " (renderAll args) ++ ")"
  | .construct constructor args =>
    "new " ++ constructor.container ++ "(" ++ String.intercalate ", " (renderAll args) ++ ")"
  | .length operand => parenthesize operand operand.render ++ ".Length"
  | .charAt operand index => parenthesize operand operand.render ++ "[" ++ index.render ++ "]"

/-- The texts of some expressions. -/
def renderAll : List Expr → List String
  | [] => []
  | e :: rest => e.render :: renderAll rest

end

end Expr

namespace Stmt

/-- Whether a statement is a block, sequence points aside. -/
def isBlock (s : Stmt) : Bool :=
  match s.inner with
  | .block _ => true
  | _ => false

/-- A branch's or loop body's text, in braces of its own unless it is a block. -/
def brace (s : Stmt) (text : String) : String :=
  if s.isBlock then text else "\x7b " ++ text ++ " \x7d"

mutual

/-- The text of a statement, on one line. -/
def render : Stmt → String
  | .expression expr => expr.render ++ ";"
  | .ret none => "return;"
  | .ret (some value) => "return " ++ value.render ++ ";"
  | .conditional condition thenBranch none =>
    "if (" ++ condition.render ++ ") " ++ brace thenBranch thenBranch.render
  | .conditional condition thenBranch (some elseBranch) =>
    "if (" ++ condition.render ++ ") " ++ brace thenBranch thenBranch.render
      ++ " else " ++ brace elseBranch elseBranch.render
  | .throw value => "throw " ++ value.render ++ ";"
  | .assign target value => target ++ " = " ++ value.render ++ ";"
  | .loop condition body => "while (" ++ condition.render ++ ") " ++ brace body body.render
  | .block ⟨_, statements⟩ => "\x7b" ++ renderAll statements ++ " \x7d"
  | .sequencePoint _ statement => statement.render

/-- The texts of some statements on one line, each after a blank. -/
def renderAll : List Stmt → String
  | [] => ""
  | s :: rest => " " ++ s.render ++ renderAll rest

end

/-- The beginning of a line in a block at a depth. -/
def indentation (depth : Nat) : String := String.ofList (List.replicate (4 * depth) ' ')

/-- A variable's declaration. -/
def declaration (l : Local) : String := l.type.name ++ " " ++ l.name ++ ";"

mutual

/-- The lines of a statement that stands in a block at a depth. -/
def lines (depth : Nat) : Stmt → List String
  | .sequencePoint none statement =>
    (indentation depth ++ "#line hidden") :: lines depth statement
      ++ [indentation depth ++ "#line default"]
  | .block ⟨locals, statements⟩ =>
    (indentation depth ++ "\x7b")
      :: (locals.map fun l => indentation (depth + 1) ++ declaration l)
      ++ linesAll (depth + 1) statements ++ [indentation depth ++ "\x7d"]
  | .sequencePoint (some _) statement => [indentation depth ++ statement.render]
  | .expression expr => [indentation depth ++ (expression expr).render]
  | .ret value => [indentation depth ++ (ret value).render]
  | .conditional condition thenBranch elseBranch =>
    [indentation depth ++ (conditional condition thenBranch elseBranch).render]
  | .throw value => [indentation depth ++ (throw value).render]
  | .assign target value => [indentation depth ++ (assign target value).render]
  | .loop condition body => [indentation depth ++ (loop condition body).render]

/-- The lines of some statements. -/
def linesAll (depth : Nat) : List Stmt → List String
  | [] => []
  | s :: rest => lines depth s ++ linesAll depth rest

end

end Stmt

/-- The lines of a block at a depth. -/
def Block.lines (depth : Nat) (b : Block) : List String := Stmt.lines depth (.block b)

/-- The text of a block. -/
def Block.render (b : Block) : String := String.intercalate "\n" (b.lines 0)

end ArgumentGuards
