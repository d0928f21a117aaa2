/-!
# The room of a compiled expression

An expression is refused if the byte automaton that it describes takes too much room.  A footprint
counts the states of an automaton and the room of the branches that leave them.
-/

namespace PathRouting.Regex

/-- How much an automaton holds. -/
structure Footprint where
  states : Nat
  branchBytes : Nat
  deriving DecidableEq

namespace Footprint

def empty : Footprint := ⟨0, 0⟩

/-- The bytes of a state without its branches. -/
def stateBytes : Nat := 32

/-- The bytes of a branch to another state that takes a byte. -/
def arcBytes : Nat := 8

/-- The bytes of a branch to another state that takes nothing. -/
def edgeBytes : Nat := 4

/-- The most bytes an automaton may take. -/
def maxBytes : Nat := 10 <<< 20

def bytes (f : Footprint) : Nat := f.states * stateBytes + f.branchBytes

/-- Whether an automaton takes too much room. -/
def isTooLarge (f : Footprint) : Bool := maxBytes < f.bytes

/-- Adds some states without lists of branches. -/
def addStates (n : Nat) (f : Footprint) : Footprint :=
  { f with states := f.states + n }

/-- Adds a state with `n` branches that each take a byte. -/
def addArcs (n : Nat) (f : Footprint) : Footprint :=
  ⟨f.states + 1, f.branchBytes + n * arcBytes⟩

/-- Adds some branches that take nothing to states that are there. -/
def addEdges (n : Nat) (f : Footprint) : Footprint :=
  { f with branchBytes := f.branchBytes + n * edgeBytes }

/-- Adds a state with `n` branches that take nothing. -/
def addUnion (n : Nat) (f : Footprint) : Footprint :=
  (f.addStates 1).addEdges n

/-- Adds something `n` times, but not on top of what takes too much room already. -/
def addTimes (add : Footprint → Footprint) : Nat → Footprint → Footprint
  | 0, f => f
  | n + 1, f => if f.isTooLarge then f else addTimes add n (add f)

end Footprint

/-! ## Tables -/

/-- The first value of the running hash of a list of numbers. -/
def hashStart : UInt64 := 14695981039346656037

/-- The hash of some numbers: each is mixed in by an exclusive or and a product. -/
def hashOf (numbers : List Nat) : UInt64 :=
  numbers.foldl (fun h n => (h ^^^ n.toUInt64) * 1099511628211) hashStart

/-- A table of a fixed number of places that finds states by what they are made of.  A state whose
place is taken displaces the one that was there. -/
abbrev StateTable (κ : Type) := Array (Option (κ × Nat))

namespace StateTable

variable {κ : Type}

def ofSize (places : Nat) : StateTable κ := Array.replicate places none

/-- The place of a key whose numbers are given. -/
def place (table : StateTable κ) (numbers : List Nat) : Nat :=
  ((hashOf numbers) % table.size.toUInt64).toNat

/-- The state of a key, if it stands at this place. -/
def find? [DecidableEq κ] (table : StateTable κ) (place : Nat) (key : κ) : Option Nat :=
  match table[place]? with
  | some (some (k, state)) => if k = key then some state else none
  | _ => none

def put (table : StateTable κ) (place : Nat) (key : κ) (state : Nat) : StateTable κ :=
  table.setIfInBounds place (some (key, state))

end StateTable

end PathRouting.Regex
