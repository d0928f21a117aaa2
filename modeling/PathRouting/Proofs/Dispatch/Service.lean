import PathRouting.Proofs.Dispatch.Watching

/-!
# Routers in use

A router in use is a router and its session.  Those who own it add routes and make requests, one
after the other; each request may call handlers, which write the outside state and make requests of
their own.  All sessions that a router in use passes through on the way are led to, and in all of
them the cells are valid and what was filled before is filled still.
-/

namespace PathRouting

variable {σ ρ : Type}

structure Service (σ ρ : Type) where
  router : Router σ ρ
  session : Session σ

/-- What the owner of a router does with it. -/
inductive Action (σ ρ : Type) where
  | ask (request : Request)
  | push (route : Route σ ρ)
  | extend (routes : List (Route σ ρ))

/-- What the owner of a router sees of an action. -/
inductive Report (ρ : Type) where
  | answered (request : Request) (answer : request.Answer ρ) (calls : List Call)
  /-- The number of routes there are now. -/
  | grown (routes : Nat)

def Router.fresh (router : Router σ ρ) (env : σ) : Service σ ρ :=
  ⟨router, router.session env⟩

namespace Service

def add (service : Service σ ρ) (routes : List (Route σ ρ)) : Service σ ρ :=
  ⟨service.router.extend routes, service.session.grow routes.length⟩

/-- Performs an action; the handlers may have up to `depth` dispatches inside one another. -/
def act (depth : Nat) (service : Service σ ρ) : Action σ ρ → Report ρ × Service σ ρ
  | .ask request =>
      let relay := service.router.serveWithin depth
      let (answer, session) := service.router.serve relay request service.session
      (.answered request answer (service.router.calls relay request service.session),
        ⟨service.router, session⟩)
  | .push route => (.grown (service.router.routes.size + 1), service.add [route])
  | .extend routes =>
      (.grown (service.router.routes.size + routes.length), service.add routes)

example (service : Service σ ρ) (request : Request) :
    (service.act (Router.nestingLimit - 1) (.ask request)).2.session =
      (service.router.ask request service.session).2 := rfl

def run (depth : Nat) (service : Service σ ρ) : List (Action σ ρ) → List (Report ρ) × Service σ ρ
  | [] => ([], service)
  | action :: actions =>
      let (report, service) := service.act depth action
      let (reports, service) := service.run depth actions
      (report :: reports, service)

end Service

/-- No new handler asks whether a route was compiled, nor does the owner. -/
def Action.Blind : Action σ ρ → Prop
  | .ask request => ¬ request.Looks
  | .push route => route.handler.Blind
  | .extend routes => ∀ route ∈ routes, route.handler.Blind

/-- What a router in use may become: between actions, as the routes are compiled in the course of a
request, when a handler is called, when that handler writes the outside state, and when its own
requests are answered. -/
inductive Service.Leads (start : Service σ ρ) : Service σ ρ → Prop where
  | here : start.Leads start
  | added {service : Service σ ρ} {routes : List (Route σ ρ)} (led : start.Leads service)
      (blind : ∀ route ∈ routes, route.handler.Blind) : start.Leads (service.add routes)
  | asked {service : Service σ ρ} (led : start.Leads service) (depth : Nat) (request : Request) :
      start.Leads
        ⟨service.router, (service.router.serveWithin depth request service.session).2⟩
  | compiled {service : Service σ ρ} (led : start.Leads service) {cell : Nat} {route : Route σ ρ}
      (found : service.router.routes[cell]? = some route) :
      start.Leads ⟨service.router, (service.session.compile cell route.source).2⟩
  | called {service : Service σ ρ} (led : start.Leads service) {depth : Nat} {request : Request}
      {seen : Sighting σ} (calls : seen ∈ service.router.sightings
        (service.router.serveWithin depth) request service.session) :
      start.Leads ⟨service.router, seen.session⟩
  | wrote {service : Service σ ρ} (led : start.Leads service) (env : σ) :
      start.Leads ⟨service.router, { service.session with env := env }⟩

/-! ## New routes -/

section

variable {router : Router σ ρ} {session : Session σ} {routes : List (Route σ ρ)}

theorem Session.Valid.grow (valid : session.Valid router) (routes : List (Route σ ρ)) :
    (session.grow routes.length).Valid (router.extend routes) where
  size := by simp [Session.grow, Router.extend, valid.size]
  holds {cell route compiled} found filled := by
    rw [cell?_grow] at filled
    have inside : cell < router.routes.size := by
      rw [← valid.size]
      refine Nat.lt_of_not_le fun outside => ?_
      simp [cell?, Array.getElem?_eq_none outside] at filled
    have same : (router.extend routes).routes[cell]? = router.routes[cell]? :=
      Array.getElem?_append_left inside
    exact valid.holds (same ▸ found) filled

theorem Router.Within.extend {allowed : Request → Prop} (within : router.Within allowed)
    (more : ∀ route ∈ routes, route.handler.Within allowed) :
    (router.extend routes).Within allowed := by
  intro route member
  rcases Array.mem_append.mp member with old | new
  · exact within route old
  · exact more route (List.mem_toArray.mp new)

end

/-! ## Everything a router in use leads to -/

/-- The service stands as the start does: its handlers are blind, its cells valid, and what was
filled at the start is filled with the same. -/
structure Service.Sound (start service : Service σ ρ) : Prop where
  blind : service.router.Blind
  valid : service.session.Valid service.router
  keeps {cell : Nat} {compiled : Compiled} :
    start.session.cell? cell = some compiled → service.session.cell? cell = some compiled

namespace Service

variable {start service : Service σ ρ}

theorem Sound.later (sound : start.Sound service) {session : Session σ}
    (later : Session.Later service.router service.session session) :
    start.Sound ⟨service.router, session⟩ :=
  ⟨sound.blind, later.valid, fun filled => later.keeps (sound.keeps filled)⟩

theorem Leads.sound (leads : start.Leads service) (blind : start.router.Blind)
    (valid : start.session.Valid start.router) : start.Sound service := by
  induction leads with
  | here => exact ⟨blind, valid, id⟩
  | added _ new sound =>
    refine ⟨sound.blind.extend new, sound.valid.grow _, fun filled => ?_⟩
    exact (Session.cell?_grow _ _ _).trans (sound.keeps filled)
  | asked _ depth request sound =>
    have scripted : Router.Scripted _ := sound.blind.mono fun _ _ => trivial
    exact sound.later (scripted.later trivial depth sound.valid)
  | compiled _ found sound => exact sound.later (sound.valid.later.compile found)
  | called _ calls sound =>
    have scripted : Router.Scripted _ := sound.blind.mono fun _ _ => trivial
    exact sound.later (scripted.sightings_later trivial _ sound.valid _ calls)
  | wrote _ env sound => exact sound.later (sound.valid.later.withEnv env)

theorem Leads.act (leads : start.Leads service) (depth : Nat) {action : Action σ ρ}
    (blind : action.Blind) : start.Leads (service.act depth action).2 := by
  cases action with
  | ask request => exact leads.asked (depth + 1) request
  | push route => exact leads.added (List.forall_mem_singleton.mpr blind)
  | extend routes => exact leads.added blind

theorem Leads.run (depth : Nat) {actions : List (Action σ ρ)} :
    ∀ {service : Service σ ρ}, start.Leads service → (∀ action ∈ actions, action.Blind) →
      start.Leads (service.run depth actions).2 := by
  induction actions with
  | nil => exact fun leads _ => leads
  | cons action actions ih =>
    intro service leads blind
    obtain ⟨first, rest⟩ := List.forall_mem_cons.mp blind
    exact ih (leads.act depth first) rest

end Service

/-! ## Services that cannot be told apart -/

/-- The same router with the same outside state, and cells that may be filled differently. -/
structure Service.Alike (service other : Service σ ρ) : Prop where
  router : service.router = other.router
  session : Session.Alike service.router service.session other.session

namespace Service

theorem Alike.act {service other : Service σ ρ} (alike : service.Alike other)
    (blind : service.router.Blind) (depth : Nat) {action : Action σ ρ} (hidden : action.Blind) :
    (service.act depth action).1 = (other.act depth action).1 ∧
      (service.act depth action).2.router.Blind ∧
      (service.act depth action).2.Alike (other.act depth action).2 := by
  obtain ⟨router, session⟩ := service
  obtain ⟨_, session'⟩ := other
  obtain ⟨rfl, alike⟩ := alike
  have grow (routes : List (Route σ ρ)) :
      Alike (add ⟨router, session⟩ routes) (add ⟨router, session'⟩ routes) :=
    ⟨rfl, alike.left.grow routes, alike.right.grow routes, alike.env⟩
  cases action with
  | ask request =>
    obtain ⟨answer, after⟩ := blind.alike hidden (depth + 1) alike
    have calls := Router.calls_alike blind hidden depth alike
    refine ⟨?_, blind, rfl, after⟩
    calc Report.answered request (router.serveWithin (depth + 1) request session).1 _
      _ = .answered request (router.serveWithin (depth + 1) request session').1 _ :=
        congrArg (Report.answered request · _) answer
      _ = .answered request _ (router.calls (router.serveWithin depth) request session') :=
        congrArg (Report.answered request _) calls
  | push route =>
    exact ⟨rfl, blind.extend (List.forall_mem_singleton.mpr hidden), grow [route]⟩
  | extend routes => exact ⟨rfl, blind.extend hidden, grow routes⟩

theorem Alike.run (depth : Nat) {actions : List (Action σ ρ)} :
    ∀ {service other : Service σ ρ}, service.Alike other → service.router.Blind →
      (∀ action ∈ actions, action.Blind) →
      (service.run depth actions).1 = (other.run depth actions).1 ∧
        (service.run depth actions).2.Alike (other.run depth actions).2 := by
  induction actions with
  | nil => exact fun alike _ _ => ⟨rfl, alike⟩
  | cons action actions ih =>
    intro service other alike blind hidden
    obtain ⟨first, rest⟩ := List.forall_mem_cons.mp hidden
    obtain ⟨report, blind, alike⟩ := alike.act blind depth first
    obtain ⟨reports, alike⟩ := ih alike blind rest
    exact ⟨congrArg₂ List.cons report reports, alike⟩

end Service

end PathRouting
