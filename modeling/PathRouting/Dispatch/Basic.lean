import PathRouting.Dispatch.Route
import PathRouting.Dispatch.Trace

/-!
# Dispatching

An operation is offered to a list of candidates from left to right.  Every route that matches is
called; the last result stands, unless a handler rejects, which ends the dispatch.  A route whose
source does not compile and a handler that fails end it with an error.
-/

namespace PathRouting

variable {σ ρ : Type}

/-! ## Offering an operation to candidates -/

/-- Where the steps of a dispatch are recorded, if they are. -/
abbrev StepLog := Option (Array Step)

/-- Records that a route was looked at. -/
def StepLog.note (log : StepLog) (index : Nat) (route : Route σ ρ)
    (flow : Option StepFlow) : StepLog :=
  log.map (·.push ⟨index, route.name, route.source.text, flow.isSome, flow⟩)

/-- The end of a dispatch that did not fail. -/
structure Run (ρ : Type) where
  outcome : Outcome ρ
  skipped : Nat
  log : StepLog

/-- Offers an operation with effective path `path` to candidates; `index` counts those before them
and `outcome` is what they gave. -/
def offer (relay : Relay σ ρ) (op : Operation) (path : String) (index : Nat)
    (outcome : Outcome ρ) (log : StepLog) :
    List (Candidate σ ρ) → Session σ → Except RouteError (Run ρ) × Session σ
  | [], session => (.ok ⟨outcome, 0, log⟩, session)
  | c :: rest, session =>
      match session.compile c.cell c.route.source with
      | (.error e, session) => (.error (.pattern e), session)
      | (.ok matcher, session) =>
          match matcher.matchPath path with
          | none =>
              offer relay op path (index + 1) outcome (log.note index c.route none) rest session
          | some m =>
              let call : Call := ⟨index, c.route.name, op.kind, path, .ofMatch op.kind m op.args⟩
              match c.route.handler relay call session with
              | (.error cause, session) => (.error (.handler index c.route.label cause), session)
              | (.ok (.proceed result), session) =>
                  offer relay op path (index + 1) (.handled result)
                    (log.note index c.route (some .continued)) rest session
              | (.ok .reject, session) =>
                  (.ok ⟨.rejected, rest.length, log.note index c.route (some .rejected)⟩, session)

def dispatch (relay : Relay σ ρ) (op : Operation) (candidates : List (Candidate σ ρ))
    (session : Session σ) : Except RouteError (Outcome ρ) × Session σ :=
  match op.effectivePath with
  | .error e => (.error (.pattern e), session)
  | .ok path =>
      match offer relay op path 0 .noMatch none candidates session with
      | (.error e, session) => (.error e, session)
      | (.ok run, session) => (.ok run.outcome, session)

/-- Dispatches an operation over candidates and records every step. -/
def dispatchTraced (relay : Relay σ ρ) (op : Operation) (candidates : List (Candidate σ ρ))
    (session : Session σ) : Except RouteError (Trace ρ) × Session σ :=
  match op.effectivePath with
  | .error e => (.error (.pattern e), session)
  | .ok path =>
      match offer relay op path 0 .noMatch (some #[]) candidates session with
      | (.error e, session) => (.error e, session)
      | (.ok run, session) =>
          (.ok ⟨op.kind, path, run.outcome, (run.log.getD #[]).toList, run.skipped⟩, session)

/-- Compiles the routes of candidates in order, up to the first that does not compile. -/
def compileAll : List (Candidate σ ρ) → Session σ → Except PatternError Unit × Session σ
  | [], session => (.ok (), session)
  | c :: rest, session =>
      match session.compile c.cell c.route.source with
      | (.error e, session) => (.error e, session)
      | (.ok _, session) => compileAll rest session

/-! ## Asking a router -/

namespace Router

/-- Compiles every route, up to the first that does not compile. -/
def validate (router : Router σ ρ) (session : Session σ) : Except PatternError Unit × Session σ :=
  compileAll router.candidates session

/-- The token names of a route, if there is one at this position. -/
def tokens? (router : Router σ ρ) (index : Nat) (session : Session σ) :
    Option (Except PatternError (List String)) × Session σ :=
  match router.candidate? index with
  | none => (none, session)
  | some c =>
      let (compiled, session) := session.compile c.cell c.route.source
      (some (compiled.map Matcher.tokens), session)

/-- Whether a route was compiled before, if there is one at this position. -/
def isCompiled? (router : Router σ ρ) (index : Nat) (session : Session σ) : Option Bool :=
  (router.candidate? index).map fun c => (session.cell? c.cell).isSome

/-- The most dispatches that may be under way at one time, each made by a handler of the one
before. -/
def nestingLimit : Nat := 1 <<< 16

/-- Answers a request without dispatching. -/
def decline (router : Router σ ρ) : Relay σ ρ
  | .dispatch _, session => (.error (.nestedTooDeep nestingLimit), session)
  | .event _, session => (.error (.nestedTooDeep nestingLimit), session)
  | .picked _ _, session => (.error (.nestedTooDeep nestingLimit), session)
  | .traced _, session => (.error (.nestedTooDeep nestingLimit), session)
  | .validate, session => router.validate session
  | .tokens index, session => router.tokens? index session
  | .isCompiled index, session => (router.isCompiled? index session, session)

/-- Answers a request; `relay` answers those that the handlers make. -/
def serve (router : Router σ ρ) (relay : Relay σ ρ) : Relay σ ρ
  | .dispatch op, session => PathRouting.dispatch relay op router.candidates session
  | .event event, session =>
      match Operation.ofEvent event with
      | .error e => (.error e, session)
      | .ok op => PathRouting.dispatch relay op router.candidates session
  | .picked op indices, session => PathRouting.dispatch relay op (router.pick indices) session
  | .traced op, session => PathRouting.dispatchTraced relay op router.candidates session
  | .validate, session => router.validate session
  | .tokens index, session => router.tokens? index session
  | .isCompiled index, session => (router.isCompiled? index session, session)

/-- Answers a request with at most `depth` dispatches inside one another. -/
def serveWithin (router : Router σ ρ) : Nat → Relay σ ρ
  | 0 => router.decline
  | depth + 1 => router.serve (router.serveWithin depth)

/-- How the handlers of this router ask it again. -/
def relay (router : Router σ ρ) : Relay σ ρ :=
  router.serveWithin (nestingLimit - 1)

/-- Answers a request that no handler makes. -/
def ask (router : Router σ ρ) : Relay σ ρ :=
  router.serve router.relay

def dispatchEvent (router : Router σ ρ) (event : Event) (session : Session σ) :
    Except RouteError (Outcome ρ) × Session σ :=
  router.ask (.event event) session

def dispatch (router : Router σ ρ) (op : Operation) (session : Session σ) :
    Except RouteError (Outcome ρ) × Session σ :=
  PathRouting.dispatch router.relay op router.candidates session

def dispatchPicked (router : Router σ ρ) (op : Operation) (indices : List Nat)
    (session : Session σ) : Except RouteError (Outcome ρ) × Session σ :=
  PathRouting.dispatch router.relay op (router.pick indices) session

/-- Dispatches an operation over the whole router and records every step. -/
def dispatchTraced (router : Router σ ρ) (op : Operation) (session : Session σ) :
    Except RouteError (Trace ρ) × Session σ :=
  PathRouting.dispatchTraced router.relay op router.candidates session

end Router

end PathRouting
