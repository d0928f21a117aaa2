import PathRouting.Dispatch.Call
import PathRouting.Matcher

/-!
# Sessions

The state that dispatches share: one cell per route, which holds the compiled source once a
dispatch has reached the route, and whatever state the handlers keep.
-/

namespace PathRouting

/-- What compiling a source gave. -/
abbrev Compiled := Except PatternError Matcher

/-- The cells of a router's routes; an empty cell belongs to a route that no dispatch has
reached. -/
abbrev Cells := Array (Option Compiled)

/-- The state of a router in use. -/
structure Session (σ : Type) where
  cells : Cells
  /-- The state of the handlers. -/
  env : σ

namespace Session

variable {σ : Type}

def cell? (session : Session σ) (cell : Nat) : Option Compiled :=
  session.cells[cell]?.join

def fill (session : Session σ) (cell : Nat) (compiled : Compiled) : Session σ :=
  { session with cells := session.cells.setIfInBounds cell (some compiled) }

/-- The compiled source of a route: from its cell, or compiled now and kept there, also if that
fails. -/
def compile (session : Session σ) (cell : Nat) (source : Source) : Compiled × Session σ :=
  match session.cell? cell with
  | some compiled => (compiled, session)
  | none =>
      let compiled := Matcher.compile source
      (compiled, session.fill cell compiled)

@[simp] theorem env_fill (session : Session σ) (cell : Nat) (compiled : Compiled) :
    (session.fill cell compiled).env = session.env := rfl

theorem cell?_fill_self {session : Session σ} {cell : Nat} (compiled : Compiled)
    (h : cell < session.cells.size) : (session.fill cell compiled).cell? cell = some compiled := by
  simp [cell?, fill, h]

theorem cell?_fill_ne {session : Session σ} {cell other : Nat} (compiled : Compiled)
    (h : cell ≠ other) : (session.fill cell compiled).cell? other = session.cell? other := by
  simp [cell?, fill, Array.getElem?_setIfInBounds_ne h]

/-- Compiling leaves the state of the handlers as it is. -/
@[simp] theorem env_compile (session : Session σ) (cell : Nat) (source : Source) :
    (session.compile cell source).2.env = session.env := by
  unfold compile
  split <;> rfl

/-- What compiling answers, whether or not the route was reached before. -/
theorem compile_fst (session : Session σ) (cell : Nat) (source : Source) :
    (session.compile cell source).1 = (session.cell? cell).getD (Matcher.compile source) := by
  unfold compile
  split <;> simp [*]

/-- Adds empty cells for new routes. -/
def grow (session : Session σ) (routes : Nat) : Session σ :=
  { session with cells := session.cells ++ Array.replicate routes none }

@[simp] theorem cell?_grow (session : Session σ) (routes cell : Nat) :
    (session.grow routes).cell? cell = session.cell? cell := by
  by_cases h : cell < session.cells.size
  · simp [cell?, grow, Array.getElem?_append_left h]
  · have h' : session.cells.size ≤ cell := Nat.le_of_not_lt h
    by_cases h'' : cell - session.cells.size < routes <;>
      simp [cell?, grow, Array.getElem?_append_right h', h', h'']

end Session

end PathRouting
