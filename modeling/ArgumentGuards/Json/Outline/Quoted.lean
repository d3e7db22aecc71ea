import ArgumentGuards.Json.Outline.Cursor

/-!
# Strings in a JSON text

A string is gone through once. Unpaired surrogates are grammatical, so going on past one is left to
a reader that does not want the text; for one that does, the first of them is the fault.
-/

namespace ArgumentGuards.Json

/-- The value of a hexadecimal digit. -/
def hexValue? (c : Char) : Option Nat :=
  if c.isDigit then some (c.toNat - '0'.toNat)
  else if 'a' ≤ c ∧ c ≤ 'f' then some (c.toNat - 'a'.toNat + 10)
  else if 'A' ≤ c ∧ c ≤ 'F' then some (c.toNat - 'A'.toNat + 10)
  else none

/-- The bytes of some characters. -/
def byteLength (cs : List Char) : Nat := (cs.map Char.utf8Size).foldr (· + ·) 0

/-- The code unit written by the next four hexadecimal digits: four bytes are taken at once. -/
def hexUnit (offset : Nat) (cs : List Char) : Except Fault Nat :=
  let four := cs.take 4
  match four.mapM hexValue? with
  | some [a, b, c, d] => .ok (((a * 16 + b) * 16 + c) * 16 + d)
  | _ =>
    -- characters of several bytes can make four bytes out of fewer than four characters
    if 4 ≤ byteLength four then .error (Cause.invalidEscape.at (offset + 4))
    else .error (Cause.endOfString.at (offset + byteLength four))

/-- What stands after a backslash, with the number of characters it takes. -/
inductive Escape where
  /-- A character. -/
  | char (value : Char) (length : Nat)
  /-- A surrogate without its other half. -/
  | unpaired (fault : Fault) (length : Nat)
  /-- Nothing that the grammar allows. -/
  | broken (fault : Fault)

/-- Whether a code unit is the first half of a pair. -/
def isLeading (unit : Nat) : Bool := 0xD800 ≤ unit && unit < 0xDC00

/-- Whether a code unit is the second half of a pair. -/
def isTrailing (unit : Nat) : Bool := 0xDC00 ≤ unit && unit < 0xE000

/-- The second half that is due after the first half of a pair. -/
def secondHalf (offset : Nat) : List Char → Except Fault Nat
  | [] => .error (Cause.endOfString.at offset)
  | c :: rest =>
    if c ≠ '\\' then .error (Cause.endOfSurrogatePair.at (offset + 1))
    else
      match rest with
      | [] => .error (Cause.endOfString.at (offset + 1))
      | d :: digits =>
        if d ≠ 'u' then .error (Cause.endOfSurrogatePair.at (offset + 2))
        else do
          let unit ← hexUnit (offset + 2) digits
          if isTrailing unit then return unit
          else .error (Cause.loneSurrogate.at (offset + 6))

/-- A numbered escape, from the digits after its `u`. -/
def numberedEscape (offset : Nat) (digits : List Char) : Escape :=
  match hexUnit offset digits with
  | .error fault => .broken fault
  | .ok unit =>
    if isTrailing unit then .unpaired (Cause.loneSurrogate.at (offset + 4)) 5
    else if isLeading unit then
      match secondHalf (offset + 4) (digits.drop 4) with
      | .error fault => .unpaired fault 5
      | .ok second => .char (Char.ofNat ((unit - 0xD800) * 0x400 + (second - 0xDC00) + 0x10000)) 11
    else .char (Char.ofNat unit) 5

/-- What the characters after a backslash mean. -/
def scanEscape (offset : Nat) : List Char → Escape
  | [] => .broken (Cause.endOfString.at offset)
  | c :: rest =>
    if c = '"' then .char '"' 1
    else if c = '\\' then .char '\\' 1
    else if c = '/' then .char '/' 1
    else if c = 'b' then .char '\x08' 1
    else if c = 'f' then .char '\x0c' 1
    else if c = 'n' then .char '\n' 1
    else if c = 'r' then .char '\r' 1
    else if c = 't' then .char '\t' 1
    else if c = 'u' then numberedEscape (offset + 1) rest
    else .broken (Cause.invalidEscape.at (offset + 1))

/-- A break in a string: a reader of the text has stopped at an earlier fault. -/
def stringBreak (earlier : Option Fault) (whenRead whenSkipped : Fault) : Break :=
  let read := earlier.getD whenRead
  ⟨read, whenSkipped, read⟩

/--
The rest of a string: `skip` more characters belong to an escape, `done` holds the characters found
so far, the last one first, and `earlier` is the first fault found.
-/
def scanString (skip : Nat) (done : List Char) (earlier : Option Fault) (offset : Nat) :
    List Char → Except Break (Except Fault String × Cursor)
  | [] =>
    let fault := Cause.endOfString.at offset
    .error (stringBreak earlier fault fault)
  | c :: rest =>
    match skip with
    | skip + 1 => scanString skip done earlier (offset + c.utf8Size) rest
    | 0 =>
      if c = '"' then
        let value := match earlier with
          | none => .ok (String.ofList done.reverse)
          | some fault => .error fault
        .ok (value, ⟨offset + 1, rest⟩)
      else if c = '\\' then
        match scanEscape (offset + 1) rest with
        | .char d length => scanString length (d :: done) earlier (offset + 1) rest
        | .unpaired fault length =>
          -- the text cannot be had any more, but its end is still to be found
          scanString length done (earlier <|> some fault) (offset + 1) rest
        | .broken fault => .error (stringBreak earlier fault fault)
      else if c.toNat < 0x20 then
        .error (stringBreak earlier (Cause.controlCharacter.at (offset + 1))
          (Cause.controlCharacter.at offset))
      else scanString 0 (c :: done) earlier (offset + c.utf8Size) rest

end ArgumentGuards.Json
