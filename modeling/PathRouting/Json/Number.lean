import PathRouting.Decimal.Shortest

/-!
# Numbers of a document

A number without a fraction and an exponent is an integer as long as it fits into 64 bits, or into
128 in a YAML stream; every other number is a binary floating number.
-/

namespace PathRouting

open PathRouting.Decimal

/-- The parts of a written number. -/
structure Numeral where
  negative : Bool
  whole : List Char
  /-- The digits behind the point. -/
  fraction : Option (List Char)
  /-- The exponent, if one is written. -/
  exponent : Option Int

namespace Numeral

def digitsValue (digits : List Char) : Nat :=
  digits.foldl (fun n c => 10 * n + (c.toNat - '0'.toNat)) 0

/-- Splits off the digits behind a point. -/
def fraction? : List Char → Option (Option (List Char) × List Char)
  | '.' :: chars =>
      match chars.takeWhile Char.isDigit with
      | [] => none
      | digits => some (some digits, chars.dropWhile Char.isDigit)
  | chars => some (none, chars)

/-- Reads what is left behind the digits as an exponent. -/
def exponent? : List Char → Option (Option Int)
  | [] => some none
  | c :: chars =>
      if c = 'e' || c = 'E' then
        let (sign, digits) : Int × List Char := match chars with
          | '-' :: digits => (-1, digits)
          | '+' :: digits => (1, digits)
          | digits => (1, digits)
        if digits.isEmpty || !digits.all Char.isDigit then none
        else some (some (sign * digitsValue digits))
      else none

/-- Reads a number without its sign.  Zeros may not lead. -/
def unsigned? (negative : Bool) (chars : List Char) : Option Numeral := do
  let whole := chars.takeWhile Char.isDigit
  if whole.isEmpty || (whole.head? == some '0' && whole.length ≠ 1) then none
  let (fraction, rest) ← fraction? (chars.dropWhile Char.isDigit)
  return ⟨negative, whole, fraction, ← exponent? rest⟩

def ofChars? : List Char → Option Numeral
  | '-' :: chars => unsigned? true chars
  | chars => unsigned? false chars

end Numeral

/-- The value of a number. -/
inductive Number where
  | integer (n : Int)
  | fractional (negative : Bool) (magnitude : Binary)
  deriving DecidableEq

namespace Number

/-- The greatest number that a significand can hold. -/
def maxSignificand : Nat := 1 <<< 64 - 1

/-- Takes the digits that fit into a significand and counts those that do not. -/
def takeDigits (significand dropped : Nat) : List Char → Nat × Nat
  | [] => (significand, dropped)
  | c :: digits =>
      let next := 10 * significand + (c.toNat - '0'.toNat)
      if dropped = 0 && next ≤ maxSignificand then takeDigits next 0 digits
      else takeDigits significand (dropped + 1) digits

/-- The value of a number in a YAML stream; `none` if it is too large. -/
def ofScalar? (n : Numeral) : Option Number :=
  let whole := Numeral.digitsValue n.whole
  let limit := if n.negative then 1 <<< 127 else 1 <<< 128 - 1
  if n.fraction.isNone && n.exponent.isNone && whole ≤ limit then
    some (.integer (if n.negative then -whole else whole))
  else
    let fraction := n.fraction.getD []
    (Binary.nearestDecimal? (Numeral.digitsValue (n.whole ++ fraction))
      (n.exponent.getD 0 - fraction.length)).map (.fractional n.negative)

/-- The value of a number in a document by itself; `none` if it is too large. -/
def ofNumeral? (n : Numeral) : Option Number :=
  let (whole, dropped) := takeDigits 0 0 n.whole
  match n.fraction, n.exponent with
  | none, none =>
      if dropped = 0 && !n.negative then some (.integer whole)
      else if dropped = 0 && 0 < whole && whole ≤ 1 <<< 63 then some (.integer (-whole))
      else (Binary.ofDecimal? whole dropped).map (.fractional n.negative)
  | fraction, exponent =>
      let digits := fraction.getD []
      let (significand, ignored) := takeDigits whole 0 digits
      let places : Int := (digits.length - ignored : Nat)
      (Binary.ofDecimal? significand (dropped - places + exponent.getD 0)).map
        (.fractional n.negative)

end Number

end PathRouting
