import ArgumentGuards.Number.Binary64

/-!
# The shortest decimal that reads back

A binary64 number is printed with the fewest decimal digits that no other number of the format is
nearer to, and of those with the digits nearest to it. Digits are tried on coarser grids first: on
each grid only the two neighbours of the number can lie in the interval that rounds to it.
-/

namespace ArgumentGuards

/-- Decimal digits, without leading zeros, and the power of ten of the last one. -/
structure Decimal where
  digits : Nat
  exponent : Int
  deriving DecidableEq, Repr

namespace Magnitude

/-- The interval of ratios that round to a magnitude: both ends over one denominator. -/
structure Interval where
  low : Nat
  value : Nat
  high : Nat
  denominator : Nat
  closed : Bool

/--
The interval around a positive magnitude: halfway to its neighbours, the one below a power of two
being half as far. A tie rounds to an even mantissa, so the ends belong to those.
-/
def interval (m : Magnitude) : Interval :=
  -- in quarters of the last place, so that every end is an integer
  let narrow := m.mantissa = Nat.pow 2 52 ∧ minExponent < m.exponent
  let low := 4 * m.mantissa - (if narrow then 1 else 2)
  let quarter := m.exponent - 2
  let unit := if 0 ≤ quarter then Nat.pow 2 quarter.toNat else 1
  { low := low * unit
    value := 4 * m.mantissa * unit
    high := (4 * m.mantissa + 2) * unit
    denominator := if 0 ≤ quarter then 1 else Nat.pow 2 (-quarter).toNat
    closed := m.mantissa % 2 = 0 }

/-- Whether `digits * 10 ^ exponent` lies in an interval. -/
def Interval.holds (i : Interval) (digits : Nat) (exponent : Int) : Bool :=
  let up := digits * (if 0 ≤ exponent then Nat.pow 10 exponent.toNat else 1) * i.denominator
  let down := if 0 ≤ exponent then 1 else Nat.pow 10 (-exponent).toNat
  if i.closed then i.low * down ≤ up && up ≤ i.high * down
  else i.low * down < up && up < i.high * down

/-- The digits of a ratio on the grid of a power of ten, cut off, with what was cut off. -/
def cutOff (i : Interval) (exponent : Int) : Nat × Nat × Nat :=
  let num := i.value * (if 0 ≤ exponent then 1 else Nat.pow 10 (-exponent).toNat)
  let den := i.denominator * (if 0 ≤ exponent then Nat.pow 10 exponent.toNat else 1)
  (num / den, num % den, den)

/-- The neighbour of an interval's value on a grid that the interval holds, the nearer if both. -/
def onGrid? (i : Interval) (exponent : Int) : Option Decimal :=
  let (below, rest, den) := cutOff i exponent
  match i.holds below exponent, i.holds (below + 1) exponent with
  | true, false => some ⟨below, exponent⟩
  | false, true => some ⟨below + 1, exponent⟩
  | false, false => none
  | true, true =>
    -- the nearer one, and of two equally near ones the even one
    if 2 * rest < den || (2 * rest = den && below % 2 = 0) then some ⟨below, exponent⟩
    else some ⟨below + 1, exponent⟩

/-- The first of finer and finer grids that has a point in the interval. -/
def firstOnGrid (i : Interval) : Nat → Int → Decimal
  | 0, exponent => ⟨(cutOff i exponent).1, exponent⟩
  | tries + 1, exponent =>
    match onGrid? i exponent with
    | some d => d
    | none => firstOnGrid i tries (exponent - 1)

/-- The number of decimal digits of a natural number. -/
def digitCount (n : Nat) : Nat := (Nat.toDigits 10 n).length

/-- The power of ten just at or below a ratio, found by scaling small ratios up. -/
def leadingTen (num den : Nat) : Int :=
  if den ≤ num then digitCount (num / den) - 1
  else
    let up := digitCount den - digitCount num
    let scaled := num * Nat.pow 10 up
    if den ≤ scaled then -(up : Int) else -(up : Int) - 1

/--
The shortest decimal of a positive magnitude. The grid above the leading digit comes first, for a
number just below a power of ten; seventeen digits always suffice.
-/
def shortest (m : Magnitude) : Decimal :=
  let i := m.interval
  firstOnGrid i 18 (leadingTen i.value i.denominator + 1)

end Magnitude

/-! ## Text -/

/-- Decimal exponents from here to `positionalLast` are written without an exponent part. -/
def positionalFirst : Int := -5

/-- The largest decimal exponent that is written without an exponent part. -/
def positionalLast : Int := 15

/-- `n` zeros. -/
def zeros (n : Nat) : List Char := List.replicate n '0'

/--
A positive decimal: positional with at least one digit after the point, or one digit before the
point and an exponent with its sign.
-/
def Decimal.toText (d : Decimal) : List Char :=
  let digits := Nat.toDigits 10 d.digits
  let leading : Int := d.exponent + digits.length - 1
  if positionalFirst ≤ leading ∧ leading ≤ positionalLast then
    if 0 ≤ d.exponent then digits ++ zeros d.exponent.toNat ++ ['.', '0']
    else if 0 ≤ leading then
      digits.take (leading.toNat + 1) ++ '.' :: digits.drop (leading.toNat + 1)
    else '0' :: '.' :: zeros (-leading - 1).toNat ++ digits
  else
    let fraction := match digits.tail with
      | [] => []
      | more => '.' :: more
    let sign := if leading < 0 then '-' else '+'
    digits.take 1 ++ fraction ++ 'e' :: sign :: Nat.toDigits 10 leading.natAbs

/-- The text of a number: the shortest decimal that reads back, after its sign. -/
def Binary64.toText (x : Binary64) : String :=
  let magnitude := if x.magnitude.mantissa = 0 then ['0', '.', '0'] else x.magnitude.shortest.toText
  String.ofList (if x.negative then '-' :: magnitude else magnitude)

end ArgumentGuards
