import PathRouting.Text.CaseFolding
import PathRouting.Text.DigitRanges
import PathRouting.Text.WordRanges

/-!
# Sets of characters

What one place of a regular expression may match.  A set is a list of ranges of code points in
ascending order, each set off from the next by a code point that is not in the set, so that two
lists differ when their sets do.
-/

namespace PathRouting.Regex

/-- A set of characters, by inclusive ranges of code points. -/
structure CharSet where
  ranges : List (Nat × Nat)
  deriving DecidableEq

namespace CharSet

/-! ## Ranges in ascending order -/

/-- The greatest code point. -/
def maxCode : Nat := 0x10FFFF

/-- Whether a code point lies in one of some ascending ranges. -/
def covers : List (Nat × Nat) → Nat → Bool
  | [], _ => false
  | (first, last) :: rest, code => first ≤ code && (code ≤ last || covers rest code)

/-- Joins a range with those of the next ones that overlap or touch it. -/
def joinFrom (first last : Nat) : List (Nat × Nat) → List (Nat × Nat)
  | [] => [(first, last)]
  | (a, b) :: rest =>
      if a ≤ last + 1 then joinFrom first (max last b) rest else (first, last) :: joinFrom a b rest

/-- Joins ranges that overlap or touch; they are in the order of their first code points. -/
def joinRanges : List (Nat × Nat) → List (Nat × Nat)
  | [] => []
  | (first, last) :: rest => joinFrom first last rest

/-- The ranges between some ranges, beginning at `start`. -/
def gapsFrom (start : Nat) : List (Nat × Nat) → List (Nat × Nat)
  | [] => if start ≤ maxCode then [(start, maxCode)] else []
  | (first, last) :: rest =>
      if start < first then (start, first - 1) :: gapsFrom (last + 1) rest
      else gapsFrom (last + 1) rest

/-! ## Operations -/

def holds (s : CharSet) (c : Char) : Bool := covers s.ranges c.toNat

def nothing : CharSet := ⟨[]⟩

def any : CharSet := ⟨[(0, maxCode)]⟩

def single (c : Char) : CharSet := ⟨[(c.toNat, c.toNat)]⟩

/-- The characters from `first` to `last`. -/
def range (first last : Char) : CharSet := ⟨[(first.toNat, last.toNat)]⟩

/-- What belongs to one of two sets. -/
def union (s t : CharSet) : CharSet :=
  ⟨joinRanges (s.ranges.merge t.ranges fun a b => a.1 ≤ b.1)⟩

def complement (s : CharSet) : CharSet := ⟨gapsFrom 0 s.ranges⟩

def both (s t : CharSet) : CharSet := (s.complement.union t.complement).complement

/-- What belongs to the first set alone. -/
def without (s t : CharSet) : CharSet := s.both t.complement

/-- What belongs to just one of two sets. -/
def either (s t : CharSet) : CharSet := (s.without t).union (t.without s)

def ofCodes (codes : List Nat) : CharSet :=
  ⟨joinRanges ((codes.map fun code => (code, code)).mergeSort fun a b => a.1 ≤ b.1)⟩

def ofChars (chars : List Char) : CharSet := ofCodes (chars.map Char.toNat)

/-- The only character of a set that has just one. -/
def single? (s : CharSet) : Option Char :=
  match s.ranges with
  | [(first, last)] =>
      if h : first = last ∧ first.isValidChar then some (Char.ofNatAux first h.2) else none
  | _ => none

/-- Whether a set has no character beyond ASCII. -/
def isAscii (s : CharSet) : Bool := s.ranges.all (·.2 < 0x80)

def anyCase (s : CharSet) : CharSet :=
  match s.single? with
  | some c => ofCodes (Text.caseVariants c.toNat)
  | none =>
      s.union (ofCodes (Text.casedCodes.filter fun code =>
        (Text.caseVariants code).any (covers s.ranges)))

/-! ## Sets known by name -/

/-- The characters of a word: letters, marks, decimal digits and connecting punctuation of any
script, and the joiners. -/
def word : CharSet := ⟨Text.wordRanges.toList⟩

/-- The decimal digits of any script. -/
def digit : CharSet := ⟨Text.digitRanges.toList⟩

/-- White space. -/
def blank : CharSet :=
  ⟨[(0x09, 0x0D), (0x20, 0x20), (0x85, 0x85), (0xA0, 0xA0), (0x1680, 0x1680), (0x2000, 0x200A),
    (0x2028, 0x2029), (0x202F, 0x202F), (0x205F, 0x205F), (0x3000, 0x3000)]⟩

@[simp] theorem holds_nothing (c : Char) : nothing.holds c = false := rfl

end CharSet

end PathRouting.Regex
