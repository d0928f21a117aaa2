import Std.Data.HashSet
import PathRouting.Pattern.Program

/-!
# Running a program on a path

The search takes every split before it skips it and goes back when a choice fails.  A split that
failed at a position fails there whatever was captured before, so it is remembered and never
tried again: that keeps the search linear in the size of the program times that of the path.
-/

namespace PathRouting.Pattern

open PathRouting.Text

/-- The bytes from `start` up to but not including `stop`. -/
structure Span where
  start : Nat
  stop : Nat
  deriving DecidableEq

/-- The captured spans by slot; a slot that took no part is empty. -/
abbrev Slots := Array (Option Span)

/-- What a search keeps across its choices: the splits that failed, each with its instruction and
its position in the path, and a record of the work it did. -/
structure Memo where
  failed : Std.HashSet (Nat × Nat)
  /-- The same splits in the order they failed, the last first. -/
  failures : List (Nat × Nat)
  /-- The splits whose choices were tried, the last first. -/
  expanded : List (Nat × Nat)
  /-- How many times the search was entered, at the start and for each choice. -/
  entered : Nat
  /-- The most entries that were under way at one time. -/
  deepest : Nat

namespace Memo

/-- Nothing tried yet. -/
def empty : Memo := ⟨∅, [], [], 0, 0⟩

/-- Counts an entry below `depth` others. -/
def enter (memo : Memo) (depth : Nat) : Memo :=
  { memo with entered := memo.entered + 1, deepest := max memo.deepest (depth + 1) }

/-- Notes that the choices of a split are tried. -/
def expand (memo : Memo) (state : Nat × Nat) : Memo :=
  { memo with expanded := state :: memo.expanded }

/-- Remembers a split that failed. -/
def fail (memo : Memo) (state : Nat × Nat) : Memo :=
  { memo with failed := memo.failed.insert state, failures := state :: memo.failures }

@[simp] theorem failed_enter (memo : Memo) (depth : Nat) :
    (memo.enter depth).failed = memo.failed := rfl

@[simp] theorem failed_expand (memo : Memo) (state : Nat × Nat) :
    (memo.expand state).failed = memo.failed := rfl

@[simp] theorem mem_failed_fail {memo : Memo} {state other : Nat × Nat} :
    other ∈ (memo.fail state).failed ↔ other = state ∨ other ∈ memo.failed := by
  rw [fail, Std.HashSet.mem_insert, beq_iff_eq, eq_comm]

end Memo

/-- A run of word bytes at the front: its length, whether a slash was taken behind it, and the bytes
left.  The run must not be empty, and only a slash or the end may follow it. -/
def takeWord? (bytes : List UInt8) : Option (Nat × Bool × List UInt8) :=
  match (bytes.takeWhile isWordByte).length, bytes.dropWhile isWordByte with
  | 0, _ => none
  | n + 1, [] => some (n + 1, false, [])
  | n + 1, b :: rest => if b = slash then some (n + 1, true, rest) else none

namespace Program

/-- Runs the program from instruction `pc` on the bytes `rest`, which start at byte `pos` of the
path.  The search was entered below `depth` others.  A split that does not point forward fails. -/
def search (program : Program) (depth pc pos : Nat) (rest : List UInt8) (slots : Slots)
    (memo : Memo) : Option Slots × Memo :=
  if h : pc < program.insts.size then
    match program.insts[pc] with
    | .literal bytes =>
        match dropText? bytes rest with
        | some rest => program.search depth (pc + 1) (pos + bytes.length) rest slots memo
        | none => (none, memo)
    | .token slot =>
        match takeWord? rest with
        | some (width, slashed, rest) =>
            program.search depth (pc + 1) (pos + width + slashed.toNat) rest
              (slots.setIfInBounds slot (some ⟨pos, pos + width⟩)) memo
        | none => (none, memo)
    | .split target =>
        if memo.failed.contains (pc, pos) then (none, memo)
        else if pc < target then
          match program.search (depth + 1) (pc + 1) pos rest slots
              ((memo.expand (pc, pos)).enter (depth + 1)) with
          | (some slots, memo) => (some slots, memo)
          | (none, memo) =>
              match program.search (depth + 1) target pos rest slots (memo.enter (depth + 1)) with
              | (some slots, memo) => (some slots, memo)
              | (none, memo) => (none, memo.fail (pc, pos))
        else (none, memo)
    | .accept => if rest.isEmpty then (some slots, memo) else (none, memo)
  else (none, memo)
termination_by program.insts.size - pc

/-- The whole search on a path, with what it remembered. -/
def run (program : Program) (path : List UInt8) : Option Slots × Memo :=
  program.search 0 0 0 path (Array.replicate program.slots none) (Memo.empty.enter 0)

end Program

def Span.text (path : List UInt8) (span : Span) : String :=
  asciiText ((path.drop span.start).take (span.stop - span.start))

/-- What a program captures on a path, by slot, if it matches. -/
def Program.captures (program : Program) (path : String) : Option (List (Option String)) :=
  let bytes := utf8 path
  (program.run bytes).1.map fun slots => slots.toList.map (·.map (Span.text bytes))

end PathRouting.Pattern
