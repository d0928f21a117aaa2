import PathRouting.Dispatch.Request

/-!
# Routes and routers

A route joins a source with a handler.  A router is a list of routes; the order of the list is the
order in which they are tried.
-/

namespace PathRouting

/-- Answers a call.  A handler may change the state of the session and may ask the router again. -/
abbrev Handler (σ ρ : Type) :=
  Relay σ ρ → Call → Session σ → Except HandlerError (Flow ρ) × Session σ

structure Route (σ ρ : Type) where
  name : Option String
  source : Source
  handler : Handler σ ρ

namespace Route

variable {σ ρ : Type}

/-- How a route is called in reports: by its name, else by its source. -/
def label (route : Route σ ρ) : String :=
  route.name.getD route.source.text

/-- The route with its state; the handler is not shown. -/
def inspect (route : Route σ ρ) (isCompiled : Bool) : String :=
  "Route \x7b name: " ++ Text.quoteOption route.name ++ ", pattern: " ++
    Text.quote route.source.text ++ ", compiled: " ++ (if isCompiled then "true" else "false") ++
    ", .. \x7d"

end Route

/-- A route and the cell of its compiled source. -/
structure Candidate (σ ρ : Type) where
  cell : Nat
  route : Route σ ρ

/-- An ordered list of routes. -/
structure Router (σ ρ : Type) where
  routes : Array (Route σ ρ)

namespace Router

variable {σ ρ : Type}

def candidate? (router : Router σ ρ) (index : Nat) : Option (Candidate σ ρ) :=
  router.routes[index]?.map (⟨index, ·⟩)

def candidates (router : Router σ ρ) : List (Candidate σ ρ) :=
  router.routes.toList.zipIdx.map fun (route, index) => ⟨index, route⟩

@[simp] theorem length_candidates (router : Router σ ρ) :
    router.candidates.length = router.routes.size := by
  simp [candidates]

/-- The routes at some positions, in the order of the positions. -/
def pick (router : Router σ ρ) (indices : List Nat) : List (Candidate σ ρ) :=
  indices.filterMap router.candidate?

def extend (router : Router σ ρ) (routes : List (Route σ ρ)) : Router σ ρ :=
  ⟨router.routes ++ routes.toArray⟩

def session (router : Router σ ρ) (env : σ) : Session σ :=
  ⟨Array.replicate router.routes.size none, env⟩

def inspect (router : Router σ ρ) (session : Session σ) : String :=
  "Router \x7b routes: " ++
    Text.bracketed (router.candidates.map fun c =>
      c.route.inspect (session.cell? c.cell).isSome) ++ " \x7d"

end Router

end PathRouting
