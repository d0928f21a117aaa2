/-!
# Ranges of bytes

The code points of a range, encoded in UTF-8, are the union of a few products of byte ranges: all
sequences whose first byte lies in the first range, whose second byte lies in the second, and so
on.  A range of code points is cut until both its ends have the same length and differ in no byte
before one that runs over all its values.
-/

namespace PathRouting.Regex.ByteRanges

/-- Inclusive ranges of bytes, one for each place of an encoded code point. -/
abbrev Product := List (Nat × Nat)

def nonempty (ranges : List (Nat × Nat)) : List (Nat × Nat) :=
  ranges.filter fun r => r.1 ≤ r.2

/-- Takes the surrogates out of a range. -/
def withoutSurrogates (r : Nat × Nat) : List (Nat × Nat) :=
  if r.1 < 0xE000 && 0xD7FF < r.2 then nonempty [(r.1, 0xD7FF), (0xE000, r.2)] else [r]

def cutBehind (code : Nat) (r : Nat × Nat) : List (Nat × Nat) :=
  if r.1 ≤ code && code < r.2 then [(r.1, code), (code + 1, r.2)] else [r]

/-- Cuts a range at its first and its last multiple of `block`, unless it lies between two
multiples or in ASCII. -/
def cutAtBlocks (block : Nat) (r : Nat × Nat) : List (Nat × Nat) :=
  if r.2 < 0x80 || r.1 / block = r.2 / block then [r]
  else
    let low := (r.1 + block - 1) / block * block
    let high := (r.2 + 1) / block * block
    nonempty [(r.1, low - 1), (low, high - 1), (high, r.2)]

def encode (code : Nat) : List Nat :=
  if code < 0x80 then [code]
  else if code < 0x800 then [0xC0 + code / 0x40, 0x80 + code % 0x40]
  else if code < 0x10000 then
    [0xE0 + code / 0x1000, 0x80 + code / 0x40 % 0x40, 0x80 + code % 0x40]
  else
    [0xF0 + code / 0x40000, 0x80 + code / 0x1000 % 0x40, 0x80 + code / 0x40 % 0x40,
      0x80 + code % 0x40]

/-- The products of a range of code points in ascending order. -/
def ofRange (r : Nat × Nat) : List Product :=
  let cut := (((withoutSurrogates r).flatMap (cutBehind 0x7F)).flatMap (cutBehind 0x7FF)).flatMap
    (cutBehind 0xFFFF)
  let aligned := ((cut.flatMap (cutAtBlocks 0x40)).flatMap (cutAtBlocks 0x1000)).flatMap
    (cutAtBlocks 0x40000)
  aligned.map fun s => (encode s.1).zip (encode s.2)

end PathRouting.Regex.ByteRanges
