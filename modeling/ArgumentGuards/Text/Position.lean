/-!
# Where a byte offset lies in a text

A reader counts the bytes it has taken. A reader of its messages wants a line and a column. This
file holds the step between them: lines are counted from one, and the column is the number of
bytes that were taken on the line, so it is zero right after a line feed and at the start.
-/

namespace ArgumentGuards.Text

/-- A line, counted from one, and the number of bytes taken on it. -/
structure Position where
  line : Nat
  column : Nat
  deriving DecidableEq, Repr

/-- The position at the start of every text. -/
def Position.start : Position := ⟨1, 0⟩

/-- Where one more character takes a position: a line feed begins a line. -/
def Position.advance (p : Position) (c : Char) : Position :=
  if c = '\n' then ⟨p.line + 1, 0⟩ else ⟨p.line, p.column + c.utf8Size⟩

/--
The position reached from `p` when `bytes` more bytes of the text are taken. An offset inside a
character counts the bytes of that character before it.
-/
def Position.after (p : Position) : Nat → List Char → Position
  | _, [] => p
  | bytes, c :: rest =>
    if c.utf8Size ≤ bytes then (p.advance c).after (bytes - c.utf8Size) rest
    else ⟨p.line, p.column + bytes⟩

/-- The position of the first `bytes` bytes of a text. -/
def positionAt (text : String) (bytes : Nat) : Position :=
  Position.start.after bytes text.toList

end ArgumentGuards.Text
