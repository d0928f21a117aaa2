import PathRouting.Regex.ByteRanges
import PathRouting.Regex.CharSet
import PathRouting.Regex.Footprint.Basic

/-!
# Sets read backward

The states that take one character of a set, byte by byte from the last.  Each byte product is a
chain of states, one for each of its ranges, and one state leads to all chains.  A chain begins
with the states of an earlier one as far as a table still has them.
-/

namespace PathRouting.Regex

/-- The states of a set that is being read. -/
structure BackwardStates where
  footprint : Footprint
  /-- The states by the state they lead to and their range. -/
  table : StateTable (Nat × Nat × Nat)

namespace BackwardStates

/-- How many states the table has places for. -/
def tableSize : Nat := 1000

/-- Adds a state that takes a range of bytes and leads to `next`, unless the table has it. -/
def add : BackwardStates × Nat → Nat × Nat → BackwardStates × Nat
  | (⟨footprint, table⟩, next), (first, last) =>
      let place := table.place [next, first, last]
      match table.find? place (next, first, last) with
      | some state => (⟨footprint, table⟩, state)
      | none =>
          let state := footprint.states
          (⟨footprint.addStates 1, table.put place (next, first, last) state⟩, state)

/-- Adds a product, which leads to the state `target`. -/
def addProduct (target : Nat) (b : BackwardStates) (product : ByteRanges.Product) :
    BackwardStates :=
  let ⟨footprint, table⟩ := (product.foldl add (b, target)).1
  ⟨footprint.addEdges 1, table⟩

def ofSet (s : CharSet) (footprint : Footprint) : Footprint :=
  let target := footprint.states + 1
  let start : BackwardStates := ⟨footprint.addStates 2, .ofSize tableSize⟩
  ((s.ranges.flatMap ByteRanges.ofRange).foldl (addProduct target) start).footprint

end BackwardStates

end PathRouting.Regex
