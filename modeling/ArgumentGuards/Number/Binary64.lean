/-!
# Finite binary64 numbers

Numbers with a fraction or an exponent are held in IEEE 754 double precision. This file has what
reading them takes, in exact integer arithmetic: rounding a ratio to the nearest representable
magnitude, ties to the even mantissa, and one multiplication or division by a power of ten. A
magnitude too large for the format is `none`.
-/

namespace ArgumentGuards

/-- A magnitude `mantissa * 2 ^ exponent` of the format. -/
structure Magnitude where
  mantissa : Nat
  exponent : Int
  deriving DecidableEq, Repr

/-- A finite number of the format: zero has a sign too. -/
structure Binary64 where
  negative : Bool
  magnitude : Magnitude
  deriving DecidableEq, Repr

namespace Magnitude

/-- The number of bits of a full mantissa. -/
def precision : Nat := 53

/-- The exponent of the smallest positive magnitude. -/
def minExponent : Int := -1074

/-- The exponent of the largest magnitudes. -/
def maxExponent : Int := 971

/-- Zero. -/
def zero : Magnitude := ⟨0, minExponent⟩

/-- The integer nearest to a ratio, a half going to the even neighbour. -/
def roundHalfEven (num den : Nat) : Nat :=
  let quotient := num / den
  let rest := num % den
  if 2 * rest < den then quotient
  else if den < 2 * rest then quotient + 1
  else quotient + quotient % 2

/-- `num / den` over `2 ^ exponent`, as a numerator and a denominator. -/
def scaled (num den : Nat) (exponent : Int) : Nat × Nat :=
  if 0 ≤ exponent then (num, den * Nat.pow 2 exponent.toNat)
  else (num * Nat.pow 2 (-exponent).toNat, den)

/-- The exponent at which a positive ratio has a full mantissa, were the format unbounded. -/
def fullExponent (num den : Nat) : Int :=
  let guess : Int := (Nat.log2 num : Int) - Nat.log2 den - 52
  let (n, d) := scaled num den guess
  if n < d * Nat.pow 2 52 then guess - 1 else guess

/-- The representable magnitude nearest to a ratio, or `none` beyond the largest. -/
def ofRatio (num den : Nat) : Option Magnitude :=
  if num = 0 then some zero
  else
    let exponent := max (fullExponent num den) minExponent
    let (n, d) := scaled num den exponent
    let mantissa := roundHalfEven n d
    -- rounding up may carry into one more bit
    let rounded : Magnitude :=
      if mantissa = Nat.pow 2 precision then ⟨Nat.pow 2 52, exponent + 1⟩
      else ⟨mantissa, exponent⟩
    if maxExponent < rounded.exponent then none else some rounded

/-- A magnitude as a numerator and a denominator. -/
def ratio (m : Magnitude) : Nat × Nat :=
  if 0 ≤ m.exponent then (m.mantissa * Nat.pow 2 m.exponent.toNat, 1)
  else (m.mantissa, Nat.pow 2 (-m.exponent).toNat)

/-- The rounded product. -/
def mul (a b : Magnitude) : Option Magnitude :=
  let (n, d) := a.ratio
  let (n', d') := b.ratio
  ofRatio (n * n') (d * d')

/-- The rounded quotient. -/
def div (a b : Magnitude) : Option Magnitude :=
  let (n, d) := a.ratio
  let (n', d') := b.ratio
  ofRatio (n * d') (d * n')

/-- The magnitude nearest to `10 ^ n`. -/
def powerOfTen (n : Nat) : Option Magnitude := ofRatio (Nat.pow 10 n) 1

/-- The largest power of ten of the format. -/
def maxTen : Nat := 308

/-- A magnitude divided by the largest power of ten, so many times or until it is zero. -/
def shrink : Nat → Magnitude → Option Magnitude
  | 0, m => some m
  | times + 1, m =>
    if m.mantissa = 0 then some m
    else (powerOfTen maxTen).bind fun ten => (m.div ten).bind (shrink times)

/--
A magnitude times `10 ^ exponent`: one rounded product or quotient, after as many rounded
divisions by the largest power of ten as a smaller exponent takes. Zero stays zero at every
exponent.
-/
def scaleByTen (m : Magnitude) (exponent : Int) : Option Magnitude :=
  if 0 ≤ exponent then
    if exponent ≤ maxTen then (powerOfTen exponent.toNat).bind m.mul
    else if m.mantissa = 0 then some m
    else none
  else
    -- the last quotient takes a power of its own, from one up to the largest
    let down := (-exponent).toNat
    let times := (down - 1) / maxTen
    (shrink times m).bind fun smaller =>
      if smaller.mantissa = 0 then some smaller
      else (powerOfTen (down - times * maxTen)).bind smaller.div

end Magnitude

/--
The number that a decimal significand and exponent stand for. The significand is rounded first and
scaled by a power of ten after that, so the last place may differ from the nearest number.
-/
def Binary64.ofDecimal (negative : Bool) (significand : Nat) (exponent : Int) :
    Option Binary64 := do
  let m ← Magnitude.ofRatio significand 1
  let scaled ← m.scaleByTen exponent
  return ⟨negative, scaled⟩

end ArgumentGuards
