import ArgumentGuards.Json.Decoder.Record
import ArgumentGuards.Symbol.Basic

/-!
# The JSON form of symbols

Enumerations are written by name, and everything else as an object with a member for each field.
-/

namespace ArgumentGuards

open Json

/-- The name under which a table of variants holds a value. -/
def nameIn {α : Type} [DecidableEq α] (variants : List (String × α)) (a : α) : String :=
  match variants.find? fun (_, b) => b = a with
  | some (name, _) => name
  | none => ""

namespace TypeKind

/-- The kinds by name. -/
def variants : List (String × TypeKind) :=
  [("reference", .reference), ("nullable_value", .nullableValue), ("plain_value", .plainValue)]

/-- Reads a kind. -/
def decode : Decoder TypeKind := Decoder.enum variants

/-- Writes a kind. -/
def toJson (kind : TypeKind) : Json := .string (nameIn variants kind)

end TypeKind

namespace Ty

/-- The fields of a type. -/
def record : Record Ty where
  label := "struct TypeSymbol"
  fields :=
    .cons ⟨"name", Decoder.string, .required⟩ <| .cons ⟨"kind", TypeKind.decode, .required⟩ .nil
  build := fun (name, kind, ()) => ⟨name, kind⟩

/-- Reads a type. -/
def decode : Decoder Ty := record.decoder

/-- Writes a type. -/
def toJson (type : Ty) : Json :=
  .object [("name", .string type.name), ("kind", type.kind.toJson)]

end Ty

namespace Parameter

/-- The fields of a parameter. -/
def record : Record Parameter where
  label := "struct ParameterSymbol"
  fields :=
    .cons ⟨"name", Decoder.string, .required⟩ <| .cons ⟨"type", Ty.decode, .required⟩ <|
    .cons ⟨"null_checked", Decoder.bool, .defaulted false⟩ <|
    .cons ⟨"ordinal", Decoder.count, .defaulted 0⟩ .nil
  build := fun (name, type, nullChecked, ordinal, ()) => ⟨name, type, nullChecked, ordinal⟩

/-- Reads a parameter. -/
def decode : Decoder Parameter := record.decoder

/-- Writes a parameter. -/
def toJson (p : Parameter) : Json :=
  .object [("name", .string p.name), ("type", p.type.toJson), ("null_checked", .bool p.nullChecked),
    ("ordinal", .nat p.ordinal.toNat)]

end Parameter

namespace MethodKind

/-- The kinds by name. -/
def variants : List (String × MethodKind) :=
  [("ordinary", .ordinary), ("constructor", .constructor), ("synthesized", .synthesized)]

/-- Reads a kind. -/
def decode : Decoder MethodKind := Decoder.enum variants

/-- Writes a kind. -/
def toJson (kind : MethodKind) : Json := .string (nameIn variants kind)

end MethodKind

namespace Method

/-- The fields of a method. -/
def record : Record Method where
  label := "struct MethodSymbol"
  fields :=
    .cons ⟨"name", Decoder.string, .required⟩ <| .cons ⟨"container", Decoder.string, .required⟩ <|
    .cons ⟨"parameters", Decoder.list Parameter.decode, .required⟩ <|
    .cons ⟨"return_type", Ty.decode, .required⟩ <| .cons ⟨"kind", MethodKind.decode, .required⟩ .nil
  build := fun (name, container, parameters, returnType, kind, ()) =>
    ⟨name, container, parameters, returnType, kind⟩

/-- Reads a method. -/
def decode : Decoder Method := record.decoder

/-- Writes a method. -/
def toJson (m : Method) : Json :=
  .object [("name", .string m.name), ("container", .string m.container),
    ("parameters", .array (m.parameters.map Parameter.toJson)),
    ("return_type", m.returnType.toJson), ("kind", m.kind.toJson)]

end Method

namespace Local

/-- The fields of a local variable. -/
def record : Record Local where
  label := "struct LocalSymbol"
  fields :=
    .cons ⟨"name", Decoder.string, .required⟩ <| .cons ⟨"type", Ty.decode, .required⟩ .nil
  build := fun (name, type, ()) => ⟨name, type⟩

/-- Reads a local variable. -/
def decode : Decoder Local := record.decoder

/-- Writes a local variable. -/
def toJson (l : Local) : Json :=
  .object [("name", .string l.name), ("type", l.type.toJson)]

end Local

end ArgumentGuards
