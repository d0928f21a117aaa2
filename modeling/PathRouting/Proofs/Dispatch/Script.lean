import PathRouting.Handlers.Gate
import PathRouting.Proofs.Dispatch.InStep

/-!
# Handlers as scripts

A handler that holds a router only by asking it follows a script: it reads and writes the state
outside the router, makes requests, looks at their answers, and answers the call at last.  Scripts
are trees, so what a handler does next may depend in any way on what it has seen.  A relation on
sessions that compiling and writing keep is kept by every script, and hence by every request,
however deep the dispatches lie inside one another.
-/

namespace PathRouting

inductive Script (σ ρ : Type) where
  | done (answer : Except HandlerError (Flow ρ))
  | read (next : σ → Script σ ρ)
  | write (env : σ) (next : Script σ ρ)
  | ask (request : Request) (next : request.Answer ρ → Script σ ρ)

variable {σ ρ : Type}

namespace Script

def run (relay : Relay σ ρ) :
    Script σ ρ → Session σ → Except HandlerError (Flow ρ) × Session σ
  | done answer, session => (answer, session)
  | read next, session => (next session.env).run relay session
  | write env next, session => next.run relay { session with env := env }
  | ask request next, session =>
      (next (relay request session).1).run relay (relay request session).2

/-- All requests that the script may come to are allowed. -/
inductive Within (allowed : Request → Prop) : Script σ ρ → Prop where
  | done (answer : Except HandlerError (Flow ρ)) : Within allowed (.done answer)
  | read {next : σ → Script σ ρ} (rest : ∀ env, (next env).Within allowed) :
      Within allowed (.read next)
  | write (env : σ) {next : Script σ ρ} (rest : next.Within allowed) :
      Within allowed (.write env next)
  | ask {request : Request} {next : request.Answer ρ → Script σ ρ} (granted : allowed request)
      (rest : ∀ answer, (next answer).Within allowed) : Within allowed (.ask request next)

theorem Within.mono {allowed more : Request → Prop}
    (grants : ∀ request, allowed request → more request) {script : Script σ ρ}
    (within : script.Within allowed) : script.Within more := by
  induction within with
  | done answer => exact .done answer
  | read _ ih => exact .read ih
  | write env _ ih => exact .write env ih
  | ask granted _ ih => exact .ask (grants _ granted) ih

end Script

/-- The handler follows scripts that make no other requests than the allowed ones. -/
def Handler.Within (allowed : Request → Prop) (handler : Handler σ ρ) : Prop :=
  ∃ script : Call → Script σ ρ, (∀ call, (script call).Within allowed) ∧
    handler = fun relay call => (script call).run relay

/-- The handler follows scripts. -/
abbrev Handler.Scripted (handler : Handler σ ρ) : Prop :=
  handler.Within fun _ => True

/-- The handler follows scripts that never ask whether a route was compiled. -/
abbrev Handler.Blind (handler : Handler σ ρ) : Prop :=
  handler.Within (¬ ·.Looks)

def Router.Within (allowed : Request → Prop) (router : Router σ ρ) : Prop :=
  ∀ route ∈ router.routes, route.handler.Within allowed

abbrev Router.Scripted (router : Router σ ρ) : Prop :=
  router.Within fun _ => True

abbrev Router.Blind (router : Router σ ρ) : Prop :=
  router.Within (¬ ·.Looks)

theorem Router.Within.mono {router : Router σ ρ} {allowed more : Request → Prop}
    (grants : ∀ request, allowed request → more request) (within : router.Within allowed) :
    router.Within more := by
  intro route member
  obtain ⟨script, scripted, follows⟩ := within route member
  exact ⟨script, fun call => (scripted call).mono grants, follows⟩

/-! ## The scripts of some handlers -/

theorem Reply.handler_within (reply : Reply) (allowed : Request → Prop) :
    (reply.handler : Handler σ String).Within allowed :=
  ⟨fun call => .done (reply.answer call), fun _ => .done _, rfl⟩

def Script.nested (label kind start : String) (call : Call) : Script σ String :=
  .ask (.event (Handler.nestedEvent kind start call)) fun
    | .ok outcome => .done (.ok (.proceed (Handler.nestedResult label outcome)))
    | .error e => .done (.error (.dispatch e))

theorem Handler.nested_within {allowed : Request → Prop} (label kind start : String)
    (granted : ∀ event, allowed (.event event)) :
    (Handler.nested label kind start : Handler σ String).Within allowed := by
  refine ⟨Script.nested label kind start, fun call => .ask (granted _) fun answer => ?_, ?_⟩
  · cases answer <;> exact .done _
  · funext relay call session
    simp only [nested, Script.nested, Script.run]
    generalize relay (.event (nestedEvent kind start call)) session = answered
    obtain ⟨_ | _, _⟩ := answered <;> rfl

/-! ## Relations that a router keeps -/

/-- Neither compiling a route nor writing the outside state leads out of the relation, and what
the allowed requests show of a session is the same in related ones. -/
structure Router.Keeps (router : Router σ ρ) (allowed : Request → Prop)
    (R : Session σ → Session σ → Prop) : Prop where
  compile {cell : Nat} {route : Route σ ρ} : router.routes[cell]? = some route →
    InStep R (·.compile cell route.source) (·.compile cell route.source)
  read {s t : Session σ} : R s t → s.env = t.env
  write {s t : Session σ} (env : σ) : R s t → R { s with env := env } { t with env := env }
  look {request : Request} : allowed request → request.Looks → ∀ ⦃s t⦄, R s t → s.cells = t.cells

section

variable {router : Router σ ρ} {allowed : Request → Prop} {R : Session σ → Session σ → Prop}
  {relay relay' : Relay σ ρ}

theorem Script.run_inStep (keeps : router.Keeps allowed R)
    (relays : ∀ request, allowed request → InStep R (relay request) (relay' request))
    {script : Script σ ρ} (within : script.Within allowed) :
    InStep R (script.run relay) (script.run relay') := by
  -- Both runs follow one script: as long as they are told the same, they do the same.
  induction within with
  | done answer => exact .unchanged R answer
  | read rest ih =>
    intro s t related
    simp only [run, keeps.read related]
    exact ih t.env related
  | write env rest ih => exact fun s t related => ih (keeps.write env related)
  | ask granted rest ih =>
    intro s t related
    obtain ⟨same, after⟩ := relays _ granted related
    simp only [run, same]
    exact ih _ after

theorem Router.Within.paired (within : router.Within allowed) (keeps : router.Keeps allowed R)
    (relays : ∀ request, allowed request → InStep R (relay request) (relay' request)) :
    router.Paired R relay relay' router where
  size := rfl
  candidate {cell route route'} found found' := by
    obtain rfl := Option.some.inj (found.symm.trans found')
    refine ⟨rfl, rfl, rfl, keeps.compile found, fun call => ?_⟩
    obtain ⟨script, scripted, follows⟩ := within route (Array.mem_of_getElem? found)
    simp only [follows]
    exact Script.run_inStep keeps relays (scripted call)

/-- Every allowed request keeps the relation: by induction on how deep dispatches may lie inside
one another, since the relay of a dispatch is one level lower. -/
theorem Router.Within.serveWithin (within : router.Within allowed)
    (keeps : router.Keeps allowed R) (depth : Nat) :
    ∀ request, allowed request →
      InStep R (router.serveWithin depth request) (router.serveWithin depth request) := by
  induction depth with
  | zero =>
    let idle : Relay σ ρ := fun request session =>
      ((router.decline request (router.session session.env)).1, session)
    have idles (request : Request) (_ : allowed request) : InStep R (idle request) (idle request) :=
      fun s t related => ⟨by simp only [idle, keeps.read related], related⟩
    intro request granted
    exact (within.paired keeps idles).decline (keeps.look granted)
  | succ depth ih =>
    intro request granted
    exact (within.paired keeps ih).serve (keeps.look granted)

end

end PathRouting
