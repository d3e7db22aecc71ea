import ArgumentGuards.Json.Outline.Cursor

/-!
# Numbers in a JSON text

A numeral is split into its digits first and valued after that. A whole numeral that fits 64 bits
is an integer; minus zero, fractions, exponents and larger numerals are numbers in double precision.
Of those the significand takes digits as long as it fits 64 bits, and is scaled by one power of ten.
-/

namespace ArgumentGuards.Json

/-- The parts of a numeral. -/
structure Numeral where
  negative : Bool
  /-- The digits before the point. -/
  whole : List Char
  /-- The digits after the point, none without one. -/
  fraction : Option (List Char)
  /-- The sign and the digits of the exponent, if there is one. -/
  exponent : Option (Bool × List Char)
  /-- The bytes up to the digits of the exponent. -/
  exponentStart : Nat
  /-- The bytes up to the end of the numeral. -/
  stop : Nat

/-- The value of a decimal digit. -/
def digitValue (c : Char) : Nat := c.toNat - '0'.toNat

/-! ## Value -/

/-- A significand with as many more digits as 64 bits hold, and the digits left over. -/
def accumulate (significand : Nat) : List Char → Nat × List Char
  | [] => (significand, [])
  | d :: rest =>
    let more := significand * 10 + digitValue d
    if more < Nat.pow 2 64 then accumulate more rest else (significand, d :: rest)

/-- The value of an exponent's digits, or how many of them are one too many for 32 bits. -/
def exponentValue (value taken : Nat) : List Char → Except Nat Nat
  | [] => .ok value
  | d :: rest =>
    let more := value * 10 + digitValue d
    if more < Nat.pow 2 31 then exponentValue more (taken + 1) rest else .error (taken + 1)

/-- A significand scaled by a power of ten, or the fault at the end of the numeral. -/
def Numeral.scaled (n : Numeral) (significand : Nat) (exponent : Int) : Except Fault Number :=
  match Binary64.ofDecimal n.negative significand exponent with
  | some x => .ok (.real x)
  | none => .error (Cause.numberOutOfRange.at n.stop)

/-- The value of a numeral in double precision, from the significand of its whole digits. -/
def Numeral.real (n : Numeral) (significand dropped : Nat) : Except Fault Number :=
  let fraction := n.fraction.getD []
  let (significand, left) := accumulate significand fraction
  let exponent : Int := (dropped : Int) - ((fraction.length - left.length : Nat) : Int)
  match n.exponent with
  | none => n.scaled significand exponent
  | some (down, digits) =>
    match exponentValue 0 0 digits with
    | .ok e => n.scaled significand (if down then exponent - e else exponent + e)
    | .error taken =>
      -- zero stays zero, and a number far below all others is zero too
      if significand ≠ 0 && !down then .error (Cause.numberOutOfRange.at (n.exponentStart + taken))
      else .ok (.real ⟨n.negative, .zero⟩)

/-- The value of a numeral. -/
def Numeral.value (n : Numeral) : Except Fault Number :=
  let (significand, left) := accumulate 0 n.whole
  if n.fraction = none ∧ n.exponent = none ∧ left = [] then
    if !n.negative then .ok (.integer significand)
    -- minus zero, and integers below the least of 64 bits
    else if significand = 0 ∨ Nat.pow 2 63 < significand then n.scaled significand 0
    else .ok (.integer (-significand))
  else n.real significand left.length

/-! ## Grammar -/

/-- The digits at a cursor, and the place after them. -/
def takeDigits (here : Cursor) : List Char × Cursor :=
  let digits := here.rest.takeWhile Char.isDigit
  (digits, ⟨here.offset + digits.length, here.rest.drop digits.length⟩)

/-- The break where a digit is due: at the end of a text a reader of the value says so. -/
def digitBreak (here : Cursor) (start : Nat) : Break :=
  let cause : Cause := if here.rest = [] then .endOfValue else .invalidNumber
  { whenRead := here.lookFault cause
    whenSkipped := here.lookFault .invalidNumber
    whenNamed := Cause.expectedValue.at (start + 1) }

/-- The digits that are due at a cursor. -/
def demandDigits (start : Nat) (here : Cursor) : Except Break (List Char × Cursor) :=
  match takeDigits here with
  | ([], _) => .error (digitBreak here start)
  | found => .ok found

/-- The digits before the point: a leading zero stands alone. -/
def scanWhole (start : Nat) (here : Cursor) : Except Break (List Char × Cursor) :=
  match here.rest with
  | '0' :: c :: _ =>
    if c.isDigit then
      .error ⟨Cause.invalidNumber.at (here.offset + 2), Cause.invalidNumber.at (here.offset + 2),
        Cause.expectedValue.at (start + 1)⟩
    else .ok (['0'], here.next)
  | _ => demandDigits start here

/-- The digits after a point, if there is a point. -/
def scanFraction (start : Nat) (here : Cursor) : Except Break (Option (List Char) × Cursor) :=
  if here.rest.head? = some '.' then do
    let (digits, here) ← demandDigits start here.next
    return (some digits, here)
  else .ok (none, here)

/-- The sign and digits of an exponent, if there is one, and where the digits begin. -/
def scanExponent (start : Nat) (here : Cursor) :
    Except Break (Option (Bool × List Char) × Nat × Cursor) :=
  if here.rest.head? = some 'e' ∨ here.rest.head? = some 'E' then do
    let here := here.next
    -- a sign is optional, digits are not
    let signed := here.rest.head? = some '+' ∨ here.rest.head? = some '-'
    let down := decide (here.rest.head? = some '-')
    let here := if signed then here.next else here
    let (digits, after) ← demandDigits start here
    return (some (down, digits), here.offset, after)
  else .ok (none, here.offset, here)

/-- The numeral that begins at a cursor with a minus sign or a digit. -/
def scanNumeral (here : Cursor) : Except Break (Numeral × Cursor) := do
  let start := here.offset
  let negative := decide (here.rest.head? = some '-')
  let (whole, here) ← scanWhole start (if negative then here.next else here)
  let (fraction, here) ← scanFraction start here
  let (exponent, exponentStart, here) ← scanExponent start here
  return (⟨negative, whole, fraction, exponent, exponentStart, here.offset⟩, here)

end ArgumentGuards.Json
