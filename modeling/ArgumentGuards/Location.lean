import ArgumentGuards.Json.Decoder.Record

/-!
# Locations and spans

A location is a line and a column of a named file, a span the stretch between two locations. A
statement without a span is hidden from debuggers.
-/

namespace ArgumentGuards

open Json

/-- A line and a column of a file. -/
structure Location where
  file : String
  line : UInt64
  column : UInt64
  deriving DecidableEq, Repr

namespace Location

/-- The same place of another file. -/
def inFile (here : Location) (file : String) : Location := { here with file := file }

/-- The text of a location. -/
def render (here : Location) : String :=
  here.file ++ ":" ++ Nat.repr here.line.toNat ++ ":" ++ Nat.repr here.column.toNat

/-- The fields of a location. -/
def record : Record Location where
  label := "struct Location"
  fields :=
    .cons ⟨"file", Decoder.string, .required⟩ <| .cons ⟨"line", Decoder.count, .required⟩ <|
    .cons ⟨"column", Decoder.count, .required⟩ .nil
  build := fun (file, line, column, ()) => ⟨file, line, column⟩

/-- Reads a location. -/
def decode : Decoder Location := record.decoder

/-- Writes a location. -/
def toJson (here : Location) : Json :=
  .object [("file", .string here.file), ("line", .nat here.line.toNat),
    ("column", .nat here.column.toNat)]

end Location

/-- The stretch from a location up to another one. -/
structure Span where
  start : Location
  stop : Location
  deriving DecidableEq, Repr

namespace Span

/-- The empty stretch at a location. -/
def point (here : Location) : Span := ⟨here, here⟩

/-- The text of a span: one location if it is empty. -/
def render (span : Span) : String :=
  if span.start = span.stop then span.start.render
  else span.start.render ++ " - " ++ span.stop.render

/-- The fields of a span. -/
def record : Record Span where
  label := "struct Span"
  fields :=
    .cons ⟨"start", Location.decode, .required⟩ <| .cons ⟨"end", Location.decode, .required⟩ .nil
  build := fun (start, stop, ()) => ⟨start, stop⟩

/-- Reads a span. -/
def decode : Decoder Span := record.decoder

/-- Writes a span. -/
def toJson (span : Span) : Json :=
  .object [("start", span.start.toJson), ("end", span.stop.toJson)]

end Span

end ArgumentGuards
