import PathRouting.Pattern.Segment
import PathRouting.Text.Utf8

/-!
# Matching programs

A pattern is compiled into a short program.  An optional element becomes a split: the
instructions of the element follow it, and its target is the first instruction after them.
-/

namespace PathRouting.Pattern

inductive Inst where
  /-- Take these bytes, up to ASCII case. -/
  | literal (bytes : List UInt8)
  /-- Capture a run of word bytes in the slot, then take a slash or be at the end. -/
  | token (slot : Nat)
  /-- Try the next instruction, then the target. -/
  | split (target : Nat)
  /-- Succeed at the end of the path. -/
  | accept
  deriving DecidableEq

/-- A compiled pattern: its instructions and the number of its capture slots. -/
structure Program where
  insts : Array Inst
  slots : Nat

namespace Piece

def slots : Piece → Nat
  | literal _ => 0
  | token _ _ => 1

/-- The instructions of a piece that starts at instruction `base` and fills slot `slot`. -/
def code (base slot : Nat) : Piece → List Inst
  | literal text => [.literal (Text.utf8 text)]
  | token _ false => [.token slot]
  | token _ true => [.split (base + 2), .token slot]

def codeAll (base slot : Nat) : List Piece → List Inst
  | [] => []
  | p :: ps =>
      let head := p.code base slot
      head ++ codeAll (base + head.length) (slot + p.slots) ps

end Piece

namespace Segment

def slots : Segment → Nat
  | piece p => p.slots
  | group body => (body.map Piece.slots).foldr (· + ·) 0

/-- The instructions of a segment that starts at instruction `base` and fills the slots from
`slot` on. -/
def code (base slot : Nat) : Segment → List Inst
  | piece p => p.code base slot
  | group body =>
      let inner := Piece.codeAll (base + 1) slot body
      .split (base + 1 + inner.length) :: inner

def codeAll (base slot : Nat) : List Segment → List Inst
  | [] => []
  | s :: ss =>
      let head := s.code base slot
      head ++ codeAll (base + head.length) (slot + s.slots) ss

end Segment

namespace Program

def compile (segments : List Segment) : Program where
  insts := (Segment.codeAll 0 0 segments ++ [Inst.accept]).toArray
  slots := (segments.map Segment.slots).foldr (· + ·) 0

end Program

end PathRouting.Pattern
