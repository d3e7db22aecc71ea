import ArgumentGuards.Text.Quoted
import ArgumentGuards.Tree.Basic
import ArgumentGuards.Json.Basic

/-!
# Values of evaluated programs

What expressions evaluate to. An absent value is either the null reference or an empty nullable, and
the two are equal when a program compares them.
-/

namespace ArgumentGuards

/-- A value. -/
inductive Value where
  | null
  | bool (value : Bool)
  | int (value : Int64)
  | uint (value : UInt32)
  | text (value : String)
  /-- A nullable value, which may be empty. -/
  | nullable (value : Option Value)
  | object (className : String) (fields : List Value)

namespace Value

/-- The value of a constant. -/
def ofLiteral : Literal → Value
  | .null => .null
  | .bool b => .bool b
  | .int n => .int n
  | .uint n => .uint n
  | .text s => .text s

/-- Whether a value is absent. -/
def isNull : Value → Bool
  | .null => true
  | .nullable none => true
  | _ => false

/-- The class of an object. -/
def className? : Value → Option String
  | .object className _ => some className
  | _ => none

/-- The fields of an object, and none of anything else. -/
def fields : Value → List Value
  | .object _ fields => fields
  | _ => []

mutual

/-- Whether two values are of the same form with the same parts. -/
def same : Value → Value → Bool
  | .null, .null => true
  | .bool a, .bool b => a = b
  | .int a, .int b => a = b
  | .uint a, .uint b => a = b
  | .text a, .text b => a = b
  | .nullable none, .nullable none => true
  | .nullable (some a), .nullable (some b) => same a b
  | .object c as, .object d bs => c = d && sameAll as bs
  | _, _ => false

/-- Whether two lists have the same values. -/
def sameAll : List Value → List Value → Bool
  | [], [] => true
  | a :: as, b :: bs => same a b && sameAll as bs
  | _, _ => false

end

/-- Whether a program finds two values equal: absent values equal one another and nothing else. -/
def equal (a b : Value) : Bool :=
  if a.isNull || b.isNull then a.isNull && b.isNull else same a b

mutual

/-- The text of a value. -/
def render : Value → String
  | .null => "null"
  | .bool true => "true"
  | .bool false => "false"
  | .int n => Int.repr n.toInt
  | .uint n => Nat.repr n.toNat ++ "u"
  | .text s => Text.quote s
  | .nullable none => "null"
  | .nullable (some value) => value.render
  | .object className fields =>
    className ++ "(" ++ String.intercalate ", " (renderAll fields) ++ ")"

/-- The texts of some values. -/
def renderAll : List Value → List String
  | [] => []
  | value :: rest => value.render :: renderAll rest

end

mutual

/-- The JSON form of a value. -/
def toJson : Value → Json
  | .null => .null
  | .bool b => .bool b
  | .int n => .int n.toInt
  | .uint n => .nat n.toNat
  | .text s => .string s
  | .nullable none => .null
  | .nullable (some value) => value.toJson
  | .object className fields =>
    .object [("class", .string className), ("fields", .array (allToJson fields))]

/-- The JSON forms of some values. -/
def allToJson : List Value → List Json
  | [] => []
  | value :: rest => value.toJson :: allToJson rest

end

end Value

end ArgumentGuards
