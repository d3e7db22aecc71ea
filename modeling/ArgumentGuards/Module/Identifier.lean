/-!
# Identifiers

A new module has an identifier that no other module has: sixteen random bytes, of which six bits say
that they are random. It is written in hexadecimal, in five groups.
-/

namespace ArgumentGuards.Identifier

/-- The number of bytes in an identifier. -/
def size : Nat := 16

/-- A byte with the bits that say how the identifier was made, at its position. -/
def mark (i : Nat) (byte : UInt8) : UInt8 :=
  if i = 6 then byte &&& 0x0f ||| 0x40
  else if i = 8 then byte &&& 0x3f ||| 0x80
  else byte

/-- The two digits of a byte. -/
def digits (byte : UInt8) : List Char :=
  [Nat.digitChar (byte.toNat / 16), Nat.digitChar (byte.toNat % 16)]

/-- What stands in front of the byte at a position. -/
def separator (i : Nat) : List Char := if [4, 6, 8, 10].contains i then ['-'] else []

/-- The identifier of some random bytes. -/
def ofBytes (bytes : List UInt8) : String :=
  String.ofList ((bytes.mapIdx fun i byte => separator i ++ digits (mark i byte)).flatten)

end ArgumentGuards.Identifier
