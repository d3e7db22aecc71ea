import ArgumentGuards.Json.Decoder.Tagged
import ArgumentGuards.Symbol.Json
import ArgumentGuards.Tree.Basic

/-!
# The JSON form of bound trees

Constants have a member for their kind and one for their value; expressions and statements are
tagged among their fields. What is empty by default may be left out when read and is left out when
written: the value of a return, the other branch of a conditional, the span of a sequence point and
the variables of a block.

A tree is read by a bound on its nesting. Every expression and statement opens a level of arrays and
objects, so the bound that the text is held to is enough.
-/

namespace ArgumentGuards

open Json

/-! ## Writing -/

/-- Writes a constant. -/
def Literal.toJson : Literal → Json
  | .null => .object [("kind", .string "null")]
  | .bool b => .object [("kind", .string "bool"), ("value", .bool b)]
  | .int n => .object [("kind", .string "int"), ("value", .int n.toInt)]
  | .uint n => .object [("kind", .string "uint"), ("value", .nat n.toNat)]
  | .text s => .object [("kind", .string "str"), ("value", .string s)]

/-- The operators with one operand by name. -/
def UnaryOp.variants : List (String × UnaryOp) := [("not", .not)]

/-- Writes an operator. -/
def UnaryOp.toJson (op : UnaryOp) : Json := .string (nameIn variants op)

/-- The operators with two operands by name. -/
def BinaryOp.variants : List (String × BinaryOp) :=
  [("equal", .equal), ("not_equal", .notEqual), ("less_than", .lessThan), ("add", .add),
    ("multiply", .multiply), ("xor", .xor)]

/-- Writes an operator. -/
def BinaryOp.toJson (op : BinaryOp) : Json := .string (nameIn variants op)

namespace Expr

mutual

/-- Writes an expression. -/
def toJson : Expr → Json
  | .literal value => .object [("expr", .string "literal"), ("value", value.toJson)]
  | .parameter name type =>
    .object [("expr", .string "parameter"), ("name", .string name), ("type", type.toJson)]
  | .localVar name => .object [("expr", .string "local"), ("name", .string name)]
  | .unary op operand =>
    .object [("expr", .string "unary"), ("op", op.toJson), ("operand", operand.toJson)]
  | .binary op left right =>
    .object [("expr", .string "binary"), ("op", op.toJson), ("left", left.toJson),
      ("right", right.toJson)]
  | .hasValue operand => .object [("expr", .string "has_value"), ("operand", operand.toJson)]
  | .call method args =>
    .object [("expr", .string "call"), ("method", method.toJson), ("args", .array (allToJson args))]
  | .construct constructor args =>
    .object [("expr", .string "new"), ("constructor", constructor.toJson),
      ("args", .array (allToJson args))]
  | .length operand => .object [("expr", .string "string_length"), ("operand", operand.toJson)]
  | .charAt operand index =>
    .object [("expr", .string "string_char"), ("operand", operand.toJson),
      ("index", index.toJson)]

/-- Writes some expressions. -/
def allToJson : List Expr → List Json
  | [] => []
  | e :: rest => e.toJson :: allToJson rest

end

end Expr

/-- A member that is left out for an empty list. -/
def memberUnlessEmpty (key : String) (items : List Json) : List (String × Json) :=
  if items.isEmpty then [] else [(key, .array items)]

/-- A member that is left out for an absent value. -/
def memberIfSome (key : String) : Option Json → List (String × Json)
  | none => []
  | some value => [(key, value)]

namespace Stmt

mutual

/-- Writes a statement. -/
def toJson : Stmt → Json
  | .expression expr => .object [("stmt", .string "expression"), ("expr", expr.toJson)]
  | .ret value =>
    .object (("stmt", .string "return") :: memberIfSome "value" (value.map Expr.toJson))
  | .conditional condition thenBranch none =>
    .object [("stmt", .string "if"), ("condition", condition.toJson),
      ("then_branch", thenBranch.toJson)]
  | .conditional condition thenBranch (some elseBranch) =>
    .object [("stmt", .string "if"), ("condition", condition.toJson),
      ("then_branch", thenBranch.toJson), ("else_branch", elseBranch.toJson)]
  | .throw value => .object [("stmt", .string "throw"), ("value", value.toJson)]
  | .assign target value =>
    .object [("stmt", .string "assign"), ("target", .string target), ("value", value.toJson)]
  | .loop condition body =>
    .object [("stmt", .string "while"), ("condition", condition.toJson), ("body", body.toJson)]
  | .block ⟨locals, statements⟩ =>
    .object [("stmt", .string "block"),
      ("block", .object (memberUnlessEmpty "locals" (locals.map Local.toJson)
        ++ [("statements", .array (allToJson statements))]))]
  | .sequencePoint span statement =>
    .object (("stmt", .string "sequence_point") :: memberIfSome "span" (span.map Span.toJson)
      ++ [("statement", statement.toJson)])

/-- Writes some statements. -/
def allToJson : List Stmt → List Json
  | [] => []
  | s :: rest => s.toJson :: allToJson rest

end

end Stmt

/-- Writes a block. -/
def Block.toJson (b : Block) : Json :=
  .object (memberUnlessEmpty "locals" (b.locals.map Local.toJson)
    ++ [("statements", .array (Stmt.allToJson b.statements))])

/-! ## Reading -/

/-- The kinds of constants. -/
def Literal.sum : ContentSum Literal where
  label := "adjacently tagged enum Literal"
  tag := "kind"
  content := "value"
  variants := [
    ("null", ⟨Decoder.map (fun _ => .null) nothing, some .null⟩),
    ("bool", ⟨Decoder.map .bool Decoder.bool, none⟩),
    ("int", ⟨Decoder.map .int Decoder.int64, none⟩),
    ("uint", ⟨Decoder.map .uint Decoder.uint32, none⟩),
    ("str", ⟨Decoder.map .text Decoder.string, none⟩)]
where
  /-- The content of null. -/
  nothing : Decoder Unit := Decoder.nothing "unit variant Literal::Null"

/-- Reads a constant. -/
def Literal.decode : Decoder Literal := Literal.sum.decoder

/-- Reads an operator. -/
def UnaryOp.decode : Decoder UnaryOp := Decoder.enum variants

/-- Reads an operator. -/
def BinaryOp.decode : Decoder BinaryOp := Decoder.enum variants

/-- A tree that is nested deeper than its text. -/
def tooNested {α : Type} : Decoder α := fun _ _ _ => .error Cause.tooDeep.unplaced

namespace Expr

/-- One form of expression. -/
def form {types : List Type} (name : String) (fields : Fields types) (build : Values types → Expr) :
    Shape Expr :=
  Record.shape ⟨"struct variant BoundExpr::" ++ name, fields, build⟩

/-- The forms of expressions, by a reader of the expressions in them. -/
def sum (inner : Decoder Expr) : TaggedSum Expr where
  label := "internally tagged enum BoundExpr"
  tag := "expr"
  variants := [
    ("literal", form "Literal" (.cons ⟨"value", Literal.decode, .required⟩ .nil)
      fun (value, ()) => .literal value),
    ("parameter", form "Parameter"
      (.cons ⟨"name", Decoder.string, .required⟩ <| .cons ⟨"type", Ty.decode, .required⟩ .nil)
      fun (name, type, ()) => .parameter name type),
    ("local", form "Local" (.cons ⟨"name", Decoder.string, .required⟩ .nil)
      fun (name, ()) => .localVar name),
    ("unary", form "Unary"
      (.cons ⟨"op", UnaryOp.decode, .required⟩ <| .cons ⟨"operand", inner, .required⟩ .nil)
      fun (op, operand, ()) => .unary op operand),
    ("binary", form "Binary"
      (.cons ⟨"op", BinaryOp.decode, .required⟩ <| .cons ⟨"left", inner, .required⟩ <|
        .cons ⟨"right", inner, .required⟩ .nil)
      fun (op, left, right, ()) => .binary op left right),
    ("has_value", form "HasValue" (.cons ⟨"operand", inner, .required⟩ .nil)
      fun (operand, ()) => .hasValue operand),
    ("call", form "Call"
      (.cons ⟨"method", Method.decode, .required⟩ <|
        .cons ⟨"args", Decoder.list inner, .defaulted []⟩ .nil)
      fun (method, args, ()) => .call method args),
    ("new", form "New"
      (.cons ⟨"constructor", Method.decode, .required⟩ <|
        .cons ⟨"args", Decoder.list inner, .defaulted []⟩ .nil)
      fun (constructor, args, ()) => .construct constructor args),
    ("string_length", form "StringLength" (.cons ⟨"operand", inner, .required⟩ .nil)
      fun (operand, ()) => .length operand),
    ("string_char", form "StringChar"
      (.cons ⟨"operand", inner, .required⟩ <| .cons ⟨"index", inner, .required⟩ .nil)
      fun (operand, index, ()) => .charAt operand index)]

/-- Reads an expression with at most so many expressions inside one another. -/
def decodeWithin : Nat → Decoder Expr
  | 0 => tooNested
  | depth + 1 => (sum (decodeWithin depth)).decoder

/-- Reads an expression. -/
def decode : Decoder Expr := fun origin room node => decodeWithin (room + 1) origin room node

end Expr

/-- The fields of a block, by a reader of its statements. -/
def Block.recordOf (statement : Decoder Stmt) : Record Block where
  label := "struct BoundBlock"
  fields :=
    .cons ⟨"locals", Decoder.list Local.decode, .defaulted []⟩ <|
    .cons ⟨"statements", Decoder.list statement, .defaulted []⟩ .nil
  build := fun (locals, statements, ()) => ⟨locals, statements⟩

namespace Stmt

/-- One form of statement. -/
def form {types : List Type} (name : String) (fields : Fields types) (build : Values types → Stmt) :
    Shape Stmt :=
  Record.shape ⟨"struct variant BoundStmt::" ++ name, fields, build⟩

/-- The forms of statements, by readers of the statements and expressions in them. -/
def sum (inner : Decoder Stmt) (expr : Decoder Expr) : TaggedSum Stmt where
  label := "internally tagged enum BoundStmt"
  tag := "stmt"
  variants := [
    ("expression", form "Expression" (.cons ⟨"expr", expr, .required⟩ .nil)
      fun (e, ()) => .expression e),
    ("return", form "Return" (.cons ⟨"value", Decoder.option expr, .defaulted none⟩ .nil)
      fun (value, ()) => .ret value),
    ("if", form "If"
      (.cons ⟨"condition", expr, .required⟩ <| .cons ⟨"then_branch", inner, .required⟩ <|
        .cons ⟨"else_branch", Decoder.option inner, .defaulted none⟩ .nil)
      fun (condition, thenBranch, elseBranch, ()) => .conditional condition thenBranch elseBranch),
    ("throw", form "Throw" (.cons ⟨"value", expr, .required⟩ .nil) fun (value, ()) => .throw value),
    ("assign", form "Assign"
      (.cons ⟨"target", Decoder.string, .required⟩ <| .cons ⟨"value", expr, .required⟩ .nil)
      fun (target, value, ()) => .assign target value),
    ("while", form "While"
      (.cons ⟨"condition", expr, .required⟩ <| .cons ⟨"body", inner, .required⟩ .nil)
      fun (condition, body, ()) => .loop condition body),
    ("block", form "Block" (.cons ⟨"block", (Block.recordOf inner).decoder, .required⟩ .nil)
      fun (b, ()) => .block b),
    ("sequence_point", form "SequencePoint"
      (.cons ⟨"span", Decoder.option Span.decode, .defaulted none⟩ <|
        .cons ⟨"statement", inner, .required⟩ .nil)
      fun (span, statement, ()) => .sequencePoint span statement)]

/-- Reads a statement with at most so many statements and expressions inside one another. -/
def decodeWithin : Nat → Decoder Stmt
  | 0 => tooNested
  | depth + 1 => (sum (decodeWithin depth) (Expr.decodeWithin depth)).decoder

/-- Reads a statement. -/
def decode : Decoder Stmt := fun origin room node => decodeWithin (room + 1) origin room node

end Stmt

/-- Reads a block. -/
def Block.decode : Decoder Block := (Block.recordOf Stmt.decode).decoder

end ArgumentGuards
