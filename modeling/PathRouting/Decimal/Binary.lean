/-!
# Binary floating numbers

Non-negative numbers `mantissa · 2 ^ exponent` with at most 53 bits in the mantissa, and rounding
of quotients to the nearest of them, a tie going to the even mantissa.
-/

namespace PathRouting.Decimal

/-- The number `mantissa · 2 ^ exponent`. -/
structure Binary where
  mantissa : Nat
  exponent : Int
  deriving DecidableEq

namespace Binary

/-- The least exponent; smaller numbers lose bits of the mantissa. -/
def minExponent : Int := -1074

/-- The greatest exponent; a number that needs more is too large. -/
def maxExponent : Int := 971

def zero : Binary := ⟨0, minExponent⟩

/-- The factor `b ^ e` as a numerator and a denominator. -/
def power (b : Nat) (e : Int) : Nat × Nat :=
  (b.pow e.toNat, b.pow (-e).toNat)

/-- A quotient rounded to the nearest natural number, a tie going to the even one. -/
def divNearest (num den : Nat) : Nat :=
  let quotient := num / den
  let twice := 2 * (num % den)
  if twice < den || (twice == den && quotient % 2 == 0) then quotient else quotient + 1

/-- The number nearest to `num / den`, if it is not too large. -/
def nearest? (num den : Nat) : Option Binary :=
  if num = 0 then some zero
  else
    let guess : Int := (num.log2 : Int) - den.log2
    let scale := power 2 guess
    let magnitude := if num * scale.2 < den * scale.1 then guess - 1 else guess
    let exponent := max (magnitude - 52) minExponent
    let unit := power 2 exponent
    let mantissa := divNearest (num * unit.2) (den * unit.1)
    let rounded : Binary :=
      if mantissa = 1 <<< 53 then ⟨1 <<< 52, exponent + 1⟩ else ⟨mantissa, exponent⟩
    if rounded.exponent ≤ maxExponent then some rounded else none

/-- The number nearest to `significand · 10 ^ exponent`, if it is not too large.  Exponents that
leave no doubt are decided without a power of ten. -/
def nearestDecimal? (significand : Nat) (exponent : Int) : Option Binary :=
  if significand = 0 || exponent < -(400 + significand.log2 : Int) then some zero
  else if 400 < exponent then none
  else
    let scale := power 10 exponent
    nearest? (significand * scale.1) scale.2

/-- The product of two numbers, rounded. -/
def mul? (a b : Binary) : Option Binary :=
  let scale := power 2 (a.exponent + b.exponent)
  nearest? (a.mantissa * b.mantissa * scale.1) scale.2

/-- The quotient of two numbers, rounded. -/
def div? (a b : Binary) : Option Binary :=
  let scale := power 2 (a.exponent - b.exponent)
  nearest? (a.mantissa * scale.1) (b.mantissa * scale.2)

/-- The number nearest to a power of ten. -/
def powerOfTen? (p : Nat) : Option Binary :=
  nearest? (Nat.pow 10 p) 1

/-- The greatest power of ten that is not too large. -/
def maxPower : Nat := 308

/-- Divides by a power of ten, by no more than the greatest power at a time. -/
def scaleDown? (a : Binary) : Nat → Nat → Option Binary
  | 0, _ => some zero
  | fuel + 1, p =>
      if p ≤ maxPower then do a.div? (← powerOfTen? p)
      else if a.mantissa = 0 then some a
      else do scaleDown? (← a.div? (← powerOfTen? maxPower)) fuel (p - maxPower)

/-- The number `significand · 10 ^ exponent`, computed with one rounding for the significand, one
for the power of ten and one for their product or quotient; `none` if it is too large. -/
def ofDecimal? (significand : Nat) (exponent : Int) : Option Binary := do
  let a ← nearest? significand 1
  if 0 ≤ exponent then
    if exponent.toNat ≤ maxPower then a.mul? (← powerOfTen? exponent.toNat)
    else if a.mantissa = 0 then some a
    else none
  else a.scaleDown? ((-exponent).toNat / maxPower + 1) (-exponent).toNat

end Binary

end PathRouting.Decimal
