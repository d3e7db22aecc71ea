/-!
# The UTF-16 code units of a text

Lengths and indices of strings in evaluated programs count UTF-16 code units: one for a character
below U+10000, and two surrogates for every other character.
-/

namespace ArgumentGuards.Text

/-- The code units of one character: itself, or its leading and trailing surrogate. -/
def unitsOf (c : Char) : List UInt32 :=
  if c.val < 0x10000 then [c.val]
  else
    let above := c.val - 0x10000
    [(0xD800 : UInt32) + (above >>> 10), (0xDC00 : UInt32) + (above &&& 0x3FF)]

/-- The code units of a text, in order. -/
def units (text : String) : List UInt32 :=
  text.toList.flatMap unitsOf

/-- The number of code units of a text. -/
def unitCount (text : String) : Nat := (units text).length

/-- The code unit at an index, counted from zero, without listing those after it. -/
def unitAt? : List Char → Nat → Option UInt32
  | [], _ => none
  | c :: rest, i =>
    match (unitsOf c)[i]? with
    | some unit => some unit
    | none => unitAt? rest (i - (unitsOf c).length)

/-- Looking a code unit up in the characters is looking it up in the list of units. -/
theorem unitAt?_eq_getElem? (cs : List Char) (i : Nat) :
    unitAt? cs i = (cs.flatMap unitsOf)[i]? := by
  induction cs generalizing i with
  | nil => rfl
  | cons c rest ih =>
    rw [unitAt?, List.flatMap_cons]
    split
    · next unit h =>
      obtain ⟨hi, _⟩ := List.getElem?_eq_some_iff.mp h
      rw [List.getElem?_append_left hi, h]
    · next h =>
      rw [List.getElem?_append_right (List.getElem?_eq_none_iff.mp h), ih]

end ArgumentGuards.Text
