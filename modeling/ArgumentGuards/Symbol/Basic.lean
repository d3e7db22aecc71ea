/-!
# Types, parameters and methods

The symbols that bound trees refer to. For null checks only the kind of a type matters: references
and nullable values can be absent, plain values cannot.
-/

namespace ArgumentGuards

/-- How values of a type are held. -/
inductive TypeKind where
  /-- Classes, strings, arrays: the null reference is an absent value. -/
  | reference
  /-- A value type in a nullable wrapper, which may be empty. -/
  | nullableValue
  /-- A value type, never absent. -/
  | plainValue
  deriving DecidableEq, Repr

/-- A type by name and kind. -/
structure Ty where
  name : String
  kind : TypeKind
  deriving DecidableEq, Repr

namespace Ty

/-- A reference type. -/
def reference (name : String) : Ty := ⟨name, .reference⟩

/-- The nullable wrapper of a value type. -/
def nullable (underlying : String) : Ty := ⟨underlying ++ "?", .nullableValue⟩

/-- A plain value type. -/
def value (name : String) : Ty := ⟨name, .plainValue⟩

/-- What a function without a result returns. -/
def void : Ty := value "void"

/-- Texts. -/
def string : Ty := reference "string"

/-- Natural numbers of 32 bits. -/
def uint : Ty := value "uint"

/-- Integers. -/
def int : Ty := value "int"

/-- Whether values of the type are no references. -/
def isValueType (type : Ty) : Bool := type.kind ≠ .reference

/-- Whether the type is a nullable wrapper. -/
def isNullable (type : Ty) : Bool := type.kind = .nullableValue

/-- Whether a value of the type can be absent when a program runs. -/
def admitsNull (type : Ty) : Bool := !type.isValueType || type.isNullable

end Ty

/-- A parameter of a function or method. -/
structure Parameter where
  name : String
  type : Ty
  /-- Whether the parameter was declared to be checked for null. -/
  nullChecked : Bool := false
  /-- The position in the parameter list. -/
  ordinal : UInt64 := 0
  deriving DecidableEq, Repr

namespace Parameter

/-- The parameter, checked for null. -/
def checked (p : Parameter) : Parameter := { p with nullChecked := true }

/-- The text of a parameter: its type, its name, and a mark if it is checked. -/
def render (p : Parameter) : String :=
  p.type.name ++ " " ++ p.name ++ (if p.nullChecked then "!" else "")

/-- The text of a parameter list. -/
def renderList (ps : List Parameter) : String :=
  "(" ++ String.intercalate ", " (ps.map render) ++ ")"

end Parameter

/-- Where a method comes from. -/
inductive MethodKind where
  | ordinary
  | constructor
  /-- Generated for one module, and kept in its private container. -/
  | synthesized
  deriving DecidableEq, Repr

/-- A method of a type. -/
structure Method where
  name : String
  /-- The name of the type that holds the method. -/
  container : String
  parameters : List Parameter
  returnType : Ty
  kind : MethodKind
  deriving DecidableEq, Repr

namespace Method

/-- The constructor of a type. -/
def constructorOf (type : Ty) (parameters : List Parameter) : Method :=
  ⟨".ctor", type.name, parameters, .void, .constructor⟩

/-- The name with the container in front. -/
def qualifiedName (m : Method) : String := m.container ++ "." ++ m.name

/-- The signature of a method. -/
def render (m : Method) : String :=
  (if m.kind = .synthesized then "static " else "")
    ++ m.returnType.name ++ " " ++ m.qualifiedName ++ Parameter.renderList m.parameters

end Method

/-- A variable that a block declares. -/
structure Local where
  name : String
  type : Ty
  deriving DecidableEq, Repr

end ArgumentGuards
