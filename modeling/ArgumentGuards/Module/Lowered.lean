import ArgumentGuards.Module.Members

/-!
# Lowered modules

What lowering makes of a module: functions whose bodies begin with their guards, and the members
that those call. A module is told apart from others by an identifier that its maker chooses.
-/

namespace ArgumentGuards

/-- A module under compilation. -/
structure CompiledModule where
  id : String
  name : String
  members : Members := .empty

namespace CompiledModule

/-- The text of a module: a line for it, then its members. -/
def render (module : CompiledModule) : String :=
  "module " ++ module.name ++ " (" ++ module.id ++ ")\n"
    ++ String.join (module.members.toList.map fun member => "\n" ++ member.render)

end CompiledModule

/-- A function after lowering. -/
structure LoweredFunction where
  name : String
  parameters : List Parameter
  returnType : Ty
  body : Block
  /-- The number of guards at the beginning of the body. -/
  guards : Nat

namespace LoweredFunction

/-- The text of a function: its signature, then its body. -/
def render (f : LoweredFunction) : String :=
  f.returnType.name ++ " " ++ f.name ++ Parameter.renderList f.parameters ++ "\n"
    ++ f.body.render ++ "\n"

/-- Writes a function. -/
def toJson (f : LoweredFunction) : Json :=
  .object [("name", .string f.name), ("parameters", .array (f.parameters.map Parameter.toJson)),
    ("return_type", f.returnType.toJson), ("body", f.body.toJson), ("guards", .nat f.guards)]

end LoweredFunction

/-- A module after lowering, with its functions in the order of their declaration. -/
structure LoweredModule where
  module : CompiledModule
  functions : List LoweredFunction

namespace LoweredModule

/-- The first function of a name. -/
def function? (lowered : LoweredModule) (name : String) : Option LoweredFunction :=
  lowered.functions.find? (·.name = name)

/-- The number of guards in all functions. -/
def totalGuards (lowered : LoweredModule) : Nat :=
  (lowered.functions.map LoweredFunction.guards).foldr (· + ·) 0

/-- The text of a module: its members, then its functions. -/
def render (lowered : LoweredModule) : String :=
  lowered.module.render
    ++ String.join (lowered.functions.map fun f => "\n" ++ f.render)

/-- Writes a module. -/
def toJson (lowered : LoweredModule) : Json :=
  .object [("module", .string lowered.module.name), ("id", .string lowered.module.id),
    ("functions", .array (lowered.functions.map LoweredFunction.toJson)),
    ("synthesized", .array (lowered.module.members.toList.map Member.toJson))]

end LoweredModule

end ArgumentGuards
