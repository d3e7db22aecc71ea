/-!
# Ranges of code points

A class of characters is a table of ranges, whose ends belong to it.
-/

namespace ArgumentGuards.Text

/-- Whether a code point is between two others, both included. -/
def inRange (first last code : Nat) : Bool := first ≤ code && code ≤ last

/-- Whether some range of a table holds a code point. -/
def inRanges (table : Array (Nat × Nat)) (code : Nat) : Bool :=
  table.any fun (first, last) => inRange first last code

end ArgumentGuards.Text
