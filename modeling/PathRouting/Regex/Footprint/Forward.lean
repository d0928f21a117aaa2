import PathRouting.Regex.ByteRanges
import PathRouting.Regex.CharSet
import PathRouting.Regex.Footprint.Basic

/-!
# Sets read forward

The states that take one character of a set, byte by byte from the first.  The byte products of a
set come in ascending order, so that a state is finished as soon as the next product leaves it; a
finished state that equals an earlier one in a table is not built again.
-/

namespace PathRouting.Regex

/-- A branch: the range of bytes it takes and the state it leads to. -/
structure Arc where
  first : Nat
  last : Nat
  next : Nat
  deriving DecidableEq

/-- A state that is not finished: its branches so far, last first, and the range of its last
branch, which leads to the state after it. -/
structure OpenState where
  arcs : List Arc
  last : Option (Nat × Nat)

/-- The states of a set that is being read: the open ones, the innermost first, and the others. -/
structure ForwardStates where
  footprint : Footprint
  table : StateTable (List Arc)
  opened : List OpenState

namespace OpenState

/-- The branches of a state once the state after it is known. -/
def finish (s : OpenState) (next : Nat) : List Arc :=
  match s.last with
  | none => s.arcs
  | some (first, last) => ⟨first, last, next⟩ :: s.arcs

end OpenState

namespace ForwardStates

/-- How many states the table has places for. -/
def tableSize : Nat := 10000

/-- Adds a state with these branches, last first, unless the table has it. -/
def add (footprint : Footprint) (table : StateTable (List Arc)) (arcs : List Arc) :
    Nat × Footprint × StateTable (List Arc) :=
  let numbers := arcs.foldl (fun ns a => a.first :: a.last :: a.next :: ns) []
  let place := table.place numbers
  match table.find? place arcs with
  | some state => (state, footprint, table)
  | none =>
      let state := footprint.states
      (state, footprint.addArcs arcs.length, table.put place arcs state)

/-- Finishes the `n` innermost states, the innermost of which leads to `next`, and the last branch
of the one around them. -/
def finish : Nat → Nat → ForwardStates → ForwardStates
  | n + 1, next, ⟨footprint, table, s :: rest⟩ =>
      let (state, footprint, table) := add footprint table (s.finish next)
      finish n state ⟨footprint, table, rest⟩
  | 0, next, ⟨footprint, table, s :: rest⟩ => ⟨footprint, table, ⟨s.finish next, none⟩ :: rest⟩
  | _, _, ⟨footprint, table, []⟩ => ⟨footprint, table, []⟩

/-- How many ranges of a product are the last branches of the open states, from the outermost. -/
def sharedLength : List (Option (Nat × Nat)) → ByteRanges.Product → Nat
  | some r :: lasts, s :: ranges => if r = s then sharedLength lasts ranges + 1 else 0
  | _, _ => 0

def openRanges (opened : List OpenState) : ByteRanges.Product → List OpenState
  | [] => opened
  | r :: ranges =>
      match opened with
      | [] => []
      | s :: rest =>
          ranges.foldl (fun opened r => ⟨[], some r⟩ :: opened) ({ s with last := some r } :: rest)

/-- Adds a product, which leads to the state `target`. -/
def addProduct (target : Nat) (f : ForwardStates) (product : ByteRanges.Product) : ForwardStates :=
  let shared := sharedLength (f.opened.reverse.map (·.last)) product
  let ⟨footprint, table, opened⟩ := finish (f.opened.length - (shared + 1)) target f
  ⟨footprint, table, openRanges opened (product.drop shared)⟩

def ofSet (s : CharSet) (footprint : Footprint) : Footprint :=
  let target := footprint.states
  let start : ForwardStates :=
    ⟨footprint.addStates 1, .ofSize tableSize, [⟨[], none⟩]⟩
  let f := (s.ranges.flatMap ByteRanges.ofRange).foldl (addProduct target) start
  let ⟨footprint, table, opened⟩ := finish (f.opened.length - 1) target f
  match opened with
  | s :: _ => (add footprint table s.arcs).2.1
  | [] => footprint

end ForwardStates

end PathRouting.Regex
