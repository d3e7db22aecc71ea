import ArgumentGuards.Json.Outline

/-!
# Reading positions

A cursor is a place in a text: the bytes before it and the characters after it. A message about a
byte that was only looked at names the place after that byte, one about a byte that was taken
names the place reached.
-/

namespace ArgumentGuards.Json

/-- A place in a text. -/
structure Cursor where
  offset : Nat
  rest : List Char

namespace Cursor

/-- The start of a text. -/
def start (text : String) : Cursor := ⟨0, text.toList⟩

/-- Whether JSON allows a character between its tokens. -/
def isBlank (c : Char) : Bool := c = ' ' || c = '\n' || c = '\t' || c = '\r'

/-- The place of the next character that is not blank. -/
def skipBlanksFrom : Nat → List Char → Cursor
  | offset, [] => ⟨offset, []⟩
  | offset, c :: rest => if isBlank c then skipBlanksFrom (offset + 1) rest else ⟨offset, c :: rest⟩

/-- The place of the next character that is not blank. -/
def skipBlanks (here : Cursor) : Cursor := skipBlanksFrom here.offset here.rest

/-- The place that a message names which looked at the next byte: the end of the text stays. -/
def peeked (here : Cursor) : Nat :=
  match here.rest with
  | [] => here.offset
  | _ :: _ => here.offset + 1

/-- The place after the next character, which is of one byte. -/
def next (here : Cursor) : Cursor := ⟨here.offset + 1, here.rest.tail⟩

/-- A fault seen by looking at the next byte. -/
def lookFault (here : Cursor) (cause : Cause) : Fault := cause.at here.peeked

end Cursor

/-! ## Leaving an array or object -/

/-- What a reader meets that leaves an array at a cursor. -/
def leaveArray (here : Cursor) : Leaving :=
  let here := here.skipBlanks
  match here.rest with
  | [] => ⟨here.offset, some (here.lookFault .endOfList)⟩
  | c :: _ =>
    if c = ']' then ⟨here.offset + 1, none⟩
    else if c = ',' then
      let after := here.next.skipBlanks
      let cause : Cause :=
        if after.rest.head? = some ']' then .trailingComma else .trailingCharacters
      ⟨after.offset, some (after.lookFault cause)⟩
    else ⟨here.offset, some (here.lookFault .trailingCharacters)⟩

/-- What a reader meets that leaves an object at a cursor. -/
def leaveObject (here : Cursor) : Leaving :=
  let here := here.skipBlanks
  match here.rest with
  | [] => ⟨here.offset, some (here.lookFault .endOfObject)⟩
  | c :: _ =>
    if c = '\x7d' then ⟨here.offset + 1, none⟩
    else
      let cause : Cause := if c = ',' then .trailingComma else .trailingCharacters
      ⟨here.offset, some (here.lookFault cause)⟩

end ArgumentGuards.Json
