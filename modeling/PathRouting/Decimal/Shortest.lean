import PathRouting.Decimal.Binary

/-!
# The shortest decimal of a binary number

Every binary floating number stands for the real numbers that round to it.  Its shortest decimal
is the one with the fewest digits among those, and of these the nearest.
-/

namespace PathRouting.Decimal

/-- The number `digits · 10 ^ exponent`. -/
structure Digits where
  digits : Nat
  exponent : Int

/-- Drops a zero at the end, which arises where a number just below a power of ten rounds to it. -/
def Digits.trim (d : Digits) : Digits :=
  if d.digits % 10 == 0 then ⟨d.digits / 10, d.exponent + 1⟩ else d

namespace Binary

/-- The ends of the interval of reals that round to a number, and the number itself, in quarters
of its last place. -/
def quarters (b : Binary) : Nat × Nat × Nat :=
  let below := if b.mantissa = 1 <<< 52 && minExponent < b.exponent then 1 else 2
  (4 * b.mantissa - below, 4 * b.mantissa, 4 * b.mantissa + 2)

/-- Whether a decimal lies in the interval of the reals that round to the number. -/
def isReadFrom (b : Binary) (d : Digits) : Bool :=
  let place := power 2 (b.exponent - 2)
  let ten := power 10 d.exponent
  let candidate := d.digits * ten.1 * place.2
  let unit := place.1 * ten.2
  let (low, _, high) := b.quarters
  if b.mantissa % 2 == 0 then low * unit ≤ candidate && candidate ≤ high * unit
  else low * unit < candidate && candidate < high * unit

/-- The decimals on both sides of the number on the grid of `10 ^ exponent`, the nearer first; a
tie goes to the even one. -/
def neighbours (b : Binary) (exponent : Int) : List Digits :=
  let two := power 2 b.exponent
  let ten := power 10 exponent
  let num := b.mantissa * two.1 * ten.2
  let den := two.2 * ten.1
  let down := num / den
  if divNearest num den = down then [⟨down, exponent⟩, ⟨down + 1, exponent⟩]
  else [⟨down + 1, exponent⟩, ⟨down, exponent⟩]

/-- The least power of ten above the number, looked for from `e` upward. -/
def ceiling (b : Binary) : Nat → Int → Int
  | 0, e => e
  | fuel + 1, e =>
      let two := power 2 b.exponent
      let ten := power 10 e
      if b.mantissa * two.1 * ten.2 < two.2 * ten.1 then e else b.ceiling fuel (e + 1)

/-- Looks for the shortest decimal on finer and finer grids. -/
def refine (b : Binary) : Nat → Int → Digits
  | 0, exponent => ⟨(b.neighbours exponent).head?.elim 0 (·.digits), exponent⟩
  | fuel + 1, exponent =>
      match (b.neighbours exponent).find? b.isReadFrom with
      | some d => d
      | none => b.refine fuel (exponent - 1)

/-- The shortest decimal of a number. -/
def shortest (b : Binary) : Digits :=
  (b.refine 17 (b.ceiling 700 (-330) - 1)).trim

end Binary

def signedExponent (n : Int) : List Char :=
  (if n < 0 then '-' else '+') :: (toString n.natAbs).toList

/-- Puts a sign, a point and an exponent to the shortest digits: positional notation from `1e-5`
up to but not including `1e+16`, always with a point; otherwise one digit before the point and an
exponent, which always has a sign. -/
def render (negative : Bool) (b : Binary) : String :=
  let sign := if negative then "-" else ""
  if b.mantissa = 0 then sign ++ "0.0"
  else
    let d := b.shortest
    let chars := (toString d.digits).toList
    let point : Int := chars.length + d.exponent
    let zeros (n : Int) : List Char := List.replicate n.toNat '0'
    let body : List Char :=
      if 0 ≤ d.exponent && point ≤ 16 then chars ++ zeros d.exponent ++ ".0".toList
      else if 0 < point && point ≤ 16 then
        chars.take point.toNat ++ '.' :: chars.drop point.toNat
      else if -5 < point && point ≤ 0 then "0.".toList ++ zeros (-point) ++ chars
      else
        let fraction := chars.drop 1
        chars.take 1 ++ (if fraction.isEmpty then [] else '.' :: fraction) ++
          'e' :: signedExponent (point - 1)
    sign ++ String.ofList body

end PathRouting.Decimal
