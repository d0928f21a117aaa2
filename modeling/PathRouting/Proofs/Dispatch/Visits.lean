import PathRouting.Proofs.Dispatch.Calling
import PathRouting.Proofs.Dispatch.Course
import PathRouting.Proofs.Dispatch.Service

/-!
# Visits

All calls of handlers that requests lead to, in the order in which they begin: those of a dispatch
one after the other and, behind each of them, those that its handler leads to by requests of its
own.  The outside state is handed from one call to the next, so what every call adds to it, a whole
run adds in this order.
-/

namespace PathRouting

variable {σ ρ : Type}

/-- A call of the handler of the route in a cell. -/
structure Visit (σ : Type) extends Sighting σ where
  cell : Nat

/-! ## The visits of one dispatch -/

/-- The calls of a dispatch over candidates, each with the cell of the route that it is made to. -/
def located (candidates : List (Candidate σ ρ)) (calls : List (Sighting σ)) : List (Visit σ) :=
  calls.filterMap fun seen => candidates[seen.call.index]?.map fun c => ⟨seen, c.cell⟩

/-- The calls to those candidates that match, each at the position of the candidate. -/
def visitsTo (op : Operation) (path : String) (candidates : List (Candidate σ ρ)) :
    List (Nat × Call) :=
  candidates.zipIdx.filterMap fun (c, index) => (c.route.call? op path index).map (c.cell, ·)

/-- The cells whose handlers a dispatch calls, and the calls: none if the operation has no path, and
else one for each route that the dispatch looks at and that matches. -/
inductive Visits (relay : Relay σ ρ) (op : Operation) (candidates : List (Candidate σ ρ))
    (session : Session σ) : List (Nat × Call) → Prop where
  | pathless {e : PatternError} (fails : op.effectivePath = .error e) :
      Visits relay op candidates session []
  | along {path : String} {reached : Nat} (computes : op.effectivePath = .ok path)
      (reach : Reach relay op path (sighted relay op candidates session) 0
        (candidates.map (·.route)) reached (dispatch relay op candidates session).1) :
      Visits relay op candidates session (visitsTo op path (candidates.take reached))

/-- The candidates stand one behind the other, the first at position `index`. -/
def Placed (candidate? : Nat → Option (Candidate σ ρ)) (index : Nat)
    (candidates : List (Candidate σ ρ)) : Prop :=
  ∀ k c, candidates[k]? = some c → candidate? (index + k) = some c

section

variable {candidate? : Nat → Option (Candidate σ ρ)} {index : Nat} {c : Candidate σ ρ}
  {candidates rest : List (Candidate σ ρ)}

theorem placed_getElem? (candidates : List (Candidate σ ρ)) :
    Placed (candidates[·]?) 0 candidates := by
  intro k c found
  rwa [Nat.zero_add]

theorem Placed.head (placed : Placed candidate? index (c :: rest)) :
    candidate? index = some c :=
  placed 0 c rfl

theorem Placed.tail (placed : Placed candidate? index (c :: rest)) :
    Placed candidate? (index + 1) rest := by
  intro k d found
  rw [Nat.add_assoc, Nat.add_comm 1 k]
  exact placed (k + 1) d found

theorem Placed.take (placed : Placed candidate? index candidates) (n : Nat) :
    Placed candidate? index (candidates.take n) := by
  intro k c found
  rw [List.getElem?_take] at found
  split at found
  · exact placed k c found
  · cases found

end

section

variable {relay : Relay σ ρ} {op : Operation} {path : String} {candidates : List (Candidate σ ρ)}
  {candidate? : Nat → Option (Candidate σ ρ)} {index : Nat}

theorem filterMap_callsTo (op : Operation) (path : String)
    (placed : Placed candidate? index candidates) :
    ((callsTo op path index (candidates.map (·.route))).map (·.2)).filterMap
        (fun call => (candidate? call.index).map fun c => (c.cell, call)) =
      (candidates.zipIdx index).filterMap fun (c, index) =>
        (c.route.call? op path index).map (c.cell, ·) := by
  induction candidates generalizing index with
  | nil => rfl
  | cons c rest ih =>
    rw [List.map_cons, callsTo_cons, List.map_append, List.filterMap_append, ih placed.tail,
      List.zipIdx_cons]
    cases called : c.route.call? op path index with
    | none => simp [callsTo_singleton_of_none called, called]
    | some call =>
      have position := Route.index_of_call? called
      simp [callsTo_singleton_of_some called, called, position, placed.head]

theorem visits_dispatch {router : Router σ ρ} (offers : router.Offers candidates)
    (keeps : ∀ c ∈ candidates, c.route.handler.KeepsValid router relay) (op : Operation)
    {session : Session σ} (valid : session.Valid router) :
    Visits relay op candidates session ((located candidates
      (sighted relay op candidates session)).map fun visit => (visit.cell, visit.call)) := by
  cases computes : op.effectivePath with
  | error e =>
    have quiet : sighted relay op candidates session = [] :=
      (dispatch_of_no_path computes session).2.1
    rw [quiet]
    exact .pathless computes
  | ok path =>
    obtain ⟨reached, course, -⟩ := dispatch_course offers keeps computes valid
    have visited : (located candidates (sighted relay op candidates session)).map
        (fun visit => (visit.cell, visit.call)) = visitsTo op path (candidates.take reached) := by
      rw [visitsTo, ← filterMap_callsTo op path ((placed_getElem? candidates).take reached),
        List.map_take, ← course.calls_eq, located, List.map_filterMap, List.filterMap_map]
      simp only [Option.map_map, Function.comp_def]
    rw [visited]
    exact .along computes course.reach

/-! ## What a dispatch hands on -/

/-- From an outside state on, the calls to candidates are made one after the other, each in the
state that the one before has left. -/
inductive Handed (relay : Relay σ ρ) (candidate? : Nat → Option (Candidate σ ρ)) :
    σ → List (Sighting σ) → σ → Prop where
  | ended {env : σ} : Handed relay candidate? env [] env
  | called {c : Candidate σ ρ} {seen : Sighting σ} {calls : List (Sighting σ)} {after : σ}
      (found : candidate? seen.call.index = some c)
      (behind : Handed relay candidate?
        (c.route.handler relay seen.call seen.session).2.env calls after) :
      Handed relay candidate? seen.session.env (seen :: calls) after

theorem Handed.of_handler {c : Candidate σ ρ} {call : Call} {reached left : Session σ}
    {answer : Except HandlerError (Flow ρ)} {calls : List (Sighting σ)} {after : σ}
    (found : candidate? call.index = some c)
    (handles : c.route.handler relay call reached = (answer, left))
    (behind : Handed relay candidate? left.env calls after) :
    Handed relay candidate? reached.env (⟨call, reached⟩ :: calls) after := by
  let seen : Sighting σ := ⟨call, reached⟩
  have env : (c.route.handler relay seen.call seen.session).2.env = left.env :=
    congrArg (·.2.env) handles
  rw [← env] at behind
  exact .called found behind

theorem Offering.handed {before : Outcome ρ} {log : StepLog} {session after : Session σ}
    {calls : List (Sighting σ)} {result : Except RouteError (Run ρ)}
    (offering : Offering relay op path index before log candidates session calls result after)
    (placed : Placed candidate? index candidates) :
    Handed relay candidate? session.env calls after.env := by
  induction offering with
  | ended => exact .ended
  | malformed compiles =>
    rw [← Session.env_of_compile compiles]
    exact .ended
  | missed compiles _ _ ih =>
    rw [← Session.env_of_compile compiles]
    exact ih placed.tail
  | failed compiles _ handles | rejected compiles _ handles =>
    rw [← Session.env_of_compile compiles]
    exact .of_handler placed.head handles .ended
  | answered compiles _ handles _ ih =>
    rw [← Session.env_of_compile compiles]
    exact .of_handler placed.head handles (ih placed.tail)

theorem dispatch_handed (relay : Relay σ ρ) (op : Operation) (candidates : List (Candidate σ ρ))
    (session : Session σ) :
    Handed relay (candidates[·]?) session.env (sighted relay op candidates session)
      (dispatch relay op candidates session).2.env := by
  cases computes : op.effectivePath with
  | error e =>
    have fails : dispatch relay op candidates session = (.error (.pattern e), session) :=
      (dispatch_of_no_path computes session).1
    have quiet : sighted relay op candidates session = [] :=
      (dispatch_of_no_path computes session).2.1
    rw [quiet, fails]
    exact .ended
  | ok path =>
    rw [dispatch_eq_offer computes]
    exact (sighted_offering computes session).handed (placed_getElem? candidates)

end

/-! ## The visits of a request -/

/-- The requests that the script makes, each with the session that it is made in. -/
def Script.requests (relay : Relay σ ρ) : Script σ ρ → Session σ → List (Request × Session σ)
  | done _, _ => []
  | read next, session => (next session.env).requests relay session
  | write env next, session => next.requests relay { session with env := env }
  | ask request next, session =>
      (request, session) ::
        (next (relay request session).1).requests relay (relay request session).2

/-- The handler of every route follows the script of its cell. -/
def Router.Follows (router : Router σ ρ) (scripts : Array (Call → Script σ ρ)) : Prop :=
  ∀ (cell : Nat) (route : Route σ ρ), router.routes[cell]? = some route →
    ∃ script, scripts[cell]? = some script ∧
      route.handler = fun relay call => (script call).run relay

/-- A visit and behind it those of the requests that its handler makes, given those of a request. -/
def Visit.whole (scripts : Array (Call → Script σ ρ)) (relay : Relay σ ρ)
    (inner : Request → Session σ → List (Visit σ)) (visit : Visit σ) : List (Visit σ) :=
  visit :: match scripts[visit.cell]? with
    | none => []
    | some script =>
        ((script visit.call).requests relay visit.session).flatMap fun (request, session) =>
          inner request session

namespace Router

/-- The operation that a request dispatches, and the candidates that it is dispatched over. -/
def dispatched? (router : Router σ ρ) : Request → Option (Operation × List (Candidate σ ρ))
  | .dispatch op | .traced op => some (op, router.candidates)
  | .event event => (Operation.ofEvent event).toOption.map fun op => (op, router.candidates)
  | .picked op indices => some (op, router.pick indices)
  | .validate | .tokens _ | .isCompiled _ => none

/-- The visits of the dispatch that a request makes, without those inside. -/
def visited (router : Router σ ρ) (relay : Relay σ ρ) (request : Request) (session : Session σ) :
    List (Visit σ) :=
  match router.dispatched? request with
  | none => []
  | some (op, candidates) => located candidates (sighted relay op candidates session)

/-- All visits that a request leads to if handlers may have up to `depth` dispatches inside one
another. -/
def visits (router : Router σ ρ) (scripts : Array (Call → Script σ ρ)) :
    Nat → Request → Session σ → List (Visit σ)
  | 0, _, _ => []
  | depth + 1, request, session =>
      (router.visited (router.serveWithin depth) request session).flatMap
        (Visit.whole scripts (router.serveWithin depth) (router.visits scripts depth))

end Router

/-! ## What visits add up to -/

/-- A relation between an outside state, some visits and the state that they lead to: visits one
behind the other add up, and a handler adds its call and what its requests add. -/
structure Router.Tallies (router : Router σ ρ) (scripts : Array (Call → Script σ ρ))
    (R : σ → List (Visit σ) → σ → Prop) : Prop where
  nothing (env : σ) : R env [] env
  append {before middle after : σ} {visits more : List (Visit σ)} :
    R before visits middle → R middle more after → R before (visits ++ more) after
  call {relay : Relay σ ρ} {inner : Request → Session σ → List (Visit σ)} (visit : Visit σ)
    {route : Route σ ρ} : router.routes[visit.cell]? = some route →
      (∀ request session,
        R session.env (inner request session) (relay request session).2.env) →
      R visit.session.env (visit.whole scripts relay inner)
        (route.handler relay visit.call visit.session).2.env

theorem Router.offers_of_dispatched? {router : Router σ ρ} {request : Request} {op : Operation}
    {candidates : List (Candidate σ ρ)}
    (dispatches : router.dispatched? request = some (op, candidates)) :
    router.Offers candidates := by
  cases request with
  | dispatch | traced =>
    obtain ⟨-, rfl⟩ := Prod.mk.inj (Option.some.inj dispatches)
    exact router.offers_candidates
  | picked _ indices =>
    obtain ⟨-, rfl⟩ := Prod.mk.inj (Option.some.inj dispatches)
    exact router.offers_pick indices
  | event event =>
    obtain ⟨op, -, same⟩ := Option.map_eq_some_iff.mp dispatches
    obtain ⟨-, rfl⟩ := Prod.mk.inj same
    exact router.offers_candidates
  | validate | tokens | isCompiled => cases dispatches

theorem env_compileAll (candidates : List (Candidate σ ρ)) (session : Session σ) :
    (compileAll candidates session).2.env = session.env := by
  induction candidates generalizing session with
  | nil => rfl
  | cons c rest ih =>
    have env := session.env_compile c.cell c.route.source
    rw [compileAll]
    cases compiled : session.compile c.cell c.route.source with
    | mk answer reached =>
      rw [compiled] at env
      cases answer with
      | error e => exact env
      | ok matcher => exact (ih reached).trans env

theorem Router.env_tokens? (router : Router σ ρ) (index : Nat) (session : Session σ) :
    (router.tokens? index session).2.env = session.env := by
  unfold tokens?
  cases router.candidate? index with
  | none => rfl
  | some c => exact session.env_compile c.cell c.route.source

section

variable {router : Router σ ρ} {scripts : Array (Call → Script σ ρ)} {relay : Relay σ ρ}
  {R : σ → List (Visit σ) → σ → Prop} {inner : Request → Session σ → List (Visit σ)}
  {candidates : List (Candidate σ ρ)}

theorem Handed.tallied (tallies : router.Tallies scripts R) (offers : router.Offers candidates)
    (relays : ∀ request session,
      R session.env (inner request session) (relay request session).2.env)
    {env after : σ} {calls : List (Sighting σ)}
    (handed : Handed relay (candidates[·]?) env calls after) :
    R env ((located candidates calls).flatMap (Visit.whole scripts relay inner)) after := by
  induction handed with
  | ended => exact tallies.nothing _
  | @called c seen calls after found behind ih =>
    have here : located candidates (seen :: calls) =
        ⟨seen, c.cell⟩ :: located candidates calls := by
      simp only [located, List.filterMap_cons, found, Option.map_some]
    have inside := offers c (List.mem_of_getElem? found)
    rw [here, List.flatMap_cons]
    exact tallies.append (tallies.call ⟨seen, c.cell⟩ inside relays) ih

namespace Router

theorem dispatch_tallied (tallies : router.Tallies scripts R) (offers : router.Offers candidates)
    (relays : ∀ request session,
      R session.env (inner request session) (relay request session).2.env)
    (op : Operation) (session : Session σ) :
    R session.env ((located candidates (sighted relay op candidates session)).flatMap
        (Visit.whole scripts relay inner))
      (PathRouting.dispatch relay op candidates session).2.env :=
  (dispatch_handed relay op candidates session).tallied tallies offers relays

theorem serve_tallied (tallies : router.Tallies scripts R)
    (relays : ∀ request session,
      R session.env (inner request session) (relay request session).2.env)
    (request : Request) (session : Session σ) :
    R session.env
      ((router.visited relay request session).flatMap (Visit.whole scripts relay inner))
      (router.serve relay request session).2.env := by
  cases request with
  | dispatch op => exact dispatch_tallied tallies router.offers_candidates relays op session
  | picked op indices =>
    exact dispatch_tallied tallies (router.offers_pick indices) relays op session
  | traced op =>
    have same := (dispatchTraced_eq_dispatch relay op router.candidates session).2
    rw [serve, same]
    exact dispatch_tallied tallies router.offers_candidates relays op session
  | event event =>
    simp only [visited, dispatched?, serve]
    cases Operation.ofEvent event with
    | error e => exact tallies.nothing _
    | ok op => exact dispatch_tallied tallies router.offers_candidates relays op session
  | validate =>
    rw [serve, validate, env_compileAll]
    exact tallies.nothing _
  | tokens index =>
    rw [serve, env_tokens?]
    exact tallies.nothing _
  | isCompiled index => exact tallies.nothing _

theorem env_decline (router : Router σ ρ) (request : Request) (session : Session σ) :
    (router.decline request session).2.env = session.env := by
  cases request with
  | dispatch | event | picked | traced | isCompiled => rfl
  | validate => exact env_compileAll _ _
  | tokens index => exact router.env_tokens? index session

/-- Every request adds what its visits add up to: by induction on how deep dispatches may lie inside
one another. -/
theorem serveWithin_tallied (tallies : router.Tallies scripts R) (depth : Nat) :
    ∀ request session, R session.env (router.visits scripts depth request session)
      (router.serveWithin depth request session).2.env := by
  induction depth with
  | zero =>
    intro request session
    rw [visits, serveWithin, env_decline]
    exact tallies.nothing _
  | succ depth ih => exact serve_tallied tallies ih

end Router

end

/-! ## The calls that a request reports -/

theorem toSighting_located {relay : Relay σ ρ} {op : Operation} {candidates : List (Candidate σ ρ)}
    {session : Session σ} :
    (located candidates (sighted relay op candidates session)).map (·.toSighting) =
      sighted relay op candidates session := by
  have inside (seen : Sighting σ) (member : seen ∈ sighted relay op candidates session) :
      candidates[seen.call.index]?.map (fun _ => seen) = some seen := by
    rw [List.getElem?_eq_getElem (index_lt_of_mem_sighted member), Option.map_some]
  simp only [located, List.map_filterMap, Option.map_map, Function.comp_def]
  rw [List.filterMap_congr inside, List.filterMap_some]

theorem Router.sightings_eq_visited (router : Router σ ρ) (relay : Relay σ ρ) (request : Request)
    (session : Session σ) :
    router.sightings relay request session =
      (router.visited relay request session).map (·.toSighting) := by
  cases request with
  | dispatch op => exact (router.sightings_dispatch relay op session).trans toSighting_located.symm
  | picked op indices =>
    exact (router.sightings_picked relay op indices session).trans toSighting_located.symm
  | traced op =>
    rw [sightings_traced, sightings_dispatch]
    exact toSighting_located.symm
  | event event =>
    simp only [visited, dispatched?]
    cases supported : Operation.ofEvent event with
    | error e => simp [sightings, serve, supported, Session.watched, Except.toOption]
    | ok op =>
      have same : router.sightings relay (.event event) session =
          router.sightings relay (.dispatch op) session := by
        simp only [sightings, serve, supported]
      rw [same, sightings_dispatch]
      exact toSighting_located.symm
  | validate => exact congrArg Prod.snd (env_compileAll _ session.watched)
  | tokens index =>
    exact congrArg Prod.snd ((router.watched relay).env_tokens? index session.watched)
  | isCompiled index => rfl

/-! ## The requests of a run -/

namespace Service

/-- The requests that the owner makes, one after the other, each with the session that it is made
in. -/
def asked (depth : Nat) : Service σ ρ → List Request → List (Request × Session σ)
  | _, [] => []
  | service, request :: requests =>
      (request, service.session) :: asked depth (service.act depth (.ask request)).2 requests

/-- All visits of the requests that the owner makes. -/
def visits (scripts : Array (Call → Script σ ρ)) (depth : Nat) (service : Service σ ρ)
    (requests : List Request) : List (Visit σ) :=
  (service.asked depth requests).flatMap fun (request, session) =>
    service.router.visits scripts (depth + 1) request session

/-- All requests that are made while the owner makes some, and the session each is made in: those of
the owner, and those of the handlers that are called for others.  The number tells how many
dispatches may yet lie inside one another. -/
inductive Makes (scripts : Array (Call → Script σ ρ)) (depth : Nat) (service : Service σ ρ)
    (requests : List Request) : Nat → Request → Session σ → Prop where
  | owner {request : Request} {session : Session σ}
      (asks : (request, session) ∈ service.asked depth requests) :
      Makes scripts depth service requests (depth + 1) request session
  | handler {level : Nat} {request inner : Request} {session reached : Session σ} {visit : Visit σ}
      {script : Call → Script σ ρ}
      (outer : Makes scripts depth service requests (level + 1) request session)
      (member : visit ∈
        service.router.visited (service.router.serveWithin level) request session)
      (found : scripts[visit.cell]? = some script)
      (asks : (inner, reached) ∈
        (script visit.call).requests (service.router.serveWithin level) visit.session) :
      Makes scripts depth service requests level inner reached

end Service

theorem Script.within_true (script : Script σ ρ) : script.Within fun _ => True := by
  induction script with
  | done answer => exact .done answer
  | read _ ih => exact .read ih
  | write env _ ih => exact .write env ih
  | ask _ _ ih => exact .ask trivial ih

theorem Script.valid_of_mem_requests {router : Router σ ρ} {relay : Relay σ ρ}
    (keeps : ∀ request {session : Session σ}, session.Valid router →
      (relay request session).2.Valid router)
    {script : Script σ ρ} {session : Session σ} (valid : session.Valid router) :
    ∀ made ∈ script.requests relay session, made.2.Valid router := by
  induction script generalizing session with
  | done => exact List.forall_mem_nil _
  | read _ ih => exact ih session.env valid
  | write env _ ih => exact ih (valid.withEnv env)
  | ask request next ih =>
    exact List.forall_mem_cons.mpr ⟨valid, ih _ (keeps request valid)⟩

section

variable {router : Router σ ρ} {scripts : Array (Call → Script σ ρ)} {service : Service σ ρ}

theorem Router.Follows.scripted (follows : router.Follows scripts) : router.Scripted := by
  intro route member
  obtain ⟨cell, found⟩ := Array.mem_iff_getElem?.mp member
  obtain ⟨script, -, same⟩ := follows cell route found
  exact ⟨script, fun call => (script call).within_true, same⟩

namespace Service

theorem valid_of_mem_asked (scripted : service.router.Scripted)
    (valid : service.session.Valid service.router) (depth : Nat) (requests : List Request) :
    ∀ made ∈ service.asked depth requests, made.2.Valid service.router := by
  induction requests generalizing service with
  | nil => exact List.forall_mem_nil _
  | cons request requests ih =>
    have after : (service.act depth (.ask request)).2.session.Valid service.router :=
      (scripted.later trivial (depth + 1) valid).valid
    exact List.forall_mem_cons.mpr ⟨valid, ih scripted after⟩

theorem Makes.valid (follows : service.router.Follows scripts)
    (valid : service.session.Valid service.router) {depth level : Nat} {requests : List Request}
    {request : Request} {session : Session σ}
    (makes : service.Makes scripts depth requests level request session) :
    session.Valid service.router := by
  have scripted := follows.scripted
  induction makes with
  | owner asks => exact valid_of_mem_asked scripted valid depth requests _ asks
  | @handler level request inner session reached visit script outer member found asks validOuter =>
    have seen : visit.toSighting ∈ service.router.sightings
        (service.router.serveWithin level) request session := by
      rw [Router.sightings_eq_visited]
      exact List.mem_map_of_mem member
    have validCall := (scripted.sightings_later trivial level validOuter _ seen).valid
    have keeps (request : Request) {session : Session σ} (valid : session.Valid service.router) :
        (service.router.serveWithin level request session).2.Valid service.router :=
      (scripted.later trivial level valid).valid
    exact Script.valid_of_mem_requests keeps validCall _ asks

theorem Makes.visits (follows : service.router.Follows scripts)
    (valid : service.session.Valid service.router) {depth level : Nat} {requests : List Request}
    {request : Request} {session : Session σ}
    (makes : service.Makes scripts depth requests (level + 1) request session) {op : Operation}
    {candidates : List (Candidate σ ρ)}
    (dispatches : service.router.dispatched? request = some (op, candidates)) :
    Visits (service.router.serveWithin level) op candidates session
      ((service.router.visited (service.router.serveWithin level) request session).map
        fun visit => (visit.cell, visit.call)) := by
  have offers := Router.offers_of_dispatched? dispatches
  have keeps := (follows.scripted.keepsValid level).of_offers offers
  rw [Router.visited, dispatches]
  exact visits_dispatch offers keeps op (makes.valid follows valid)

theorem run_tallied {R : σ → List (Visit σ) → σ → Prop}
    (tallies : service.router.Tallies scripts R) (depth : Nat) (requests : List Request) :
    R service.session.env (service.visits scripts depth requests)
      (service.run depth (requests.map .ask)).2.session.env := by
  induction requests generalizing service with
  | nil => exact tallies.nothing _
  | cons request requests ih =>
    have first := Router.serveWithin_tallied tallies (depth + 1) request service.session
    have rest := @ih (service.act depth (.ask request)).2 tallies
    rw [visits, asked, List.flatMap_cons]
    exact tallies.append first rest

end Service

end

end PathRouting
