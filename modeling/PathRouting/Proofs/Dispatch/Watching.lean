import PathRouting.Proofs.Dispatch.Cells

/-!
# Watched handlers

A watched handler answers as it would unwatched and notes each call beside the outside state,
together with the session it is made in.  So the calls that a request leads to can be spoken of
whatever the handlers are, and watching changes neither answers nor sessions.
-/

namespace PathRouting

variable {σ τ ρ : Type}

/-- A call of a handler and the session it was made in. -/
structure Sighting (σ : Type) where
  call : Call
  session : Session σ

namespace Session

def watched (session : Session σ) : Session (σ × List (Sighting σ)) :=
  ⟨session.cells, session.env, []⟩

def unwatched (session : Session (σ × List (Sighting σ))) : Session σ :=
  ⟨session.cells, session.env.1⟩

@[simp] theorem unwatched_watched (session : Session σ) : session.watched.unwatched = session := rfl

end Session

/-- The handler with its calls noted; its requests are answered by `relay`, unwatched. -/
def Handler.watched (relay : Relay σ ρ) (handler : Handler σ ρ) :
    Handler (σ × List (Sighting σ)) ρ :=
  fun _ call session =>
    ((handler relay call session.unwatched).1,
      ⟨(handler relay call session.unwatched).2.cells,
        (handler relay call session.unwatched).2.env,
        session.env.2 ++ [⟨call, session.unwatched⟩]⟩)

def Route.watched (relay : Relay σ ρ) (route : Route σ ρ) : Route (σ × List (Sighting σ)) ρ :=
  ⟨route.name, route.source, route.handler.watched relay⟩

namespace Router

def watched (router : Router σ ρ) (relay : Relay σ ρ) : Router (σ × List (Sighting σ)) ρ :=
  ⟨router.routes.map (·.watched relay)⟩

/-- The calls that a request leads to, in order.  Those inside the requests of handlers are left
out: they belong to these requests. -/
def sightings (router : Router σ ρ) (relay : Relay σ ρ) (request : Request)
    (session : Session σ) : List (Sighting σ) :=
  ((router.watched relay).serve (router.watched relay).decline request session.watched).2.env.2

def calls (router : Router σ ρ) (relay : Relay σ ρ) (request : Request) (session : Session σ) :
    List Call :=
  (router.sightings relay request session).map (·.call)

theorem watched_found {router : Router σ ρ} {relay : Relay σ ρ} {cell : Nat}
    {seen : Route (σ × List (Sighting σ)) ρ}
    (found : (router.watched relay).routes[cell]? = some seen) :
    ∃ route, router.routes[cell]? = some route ∧ seen = route.watched relay := by
  simp only [watched, Array.getElem?_map] at found
  obtain ⟨route, inside, rfl⟩ := Option.map_eq_some_iff.mp found
  exact ⟨route, inside, rfl⟩

end Router

/-! ## What watching leaves as it is -/

section

variable {router : Router σ ρ} {relay : Relay σ ρ}

theorem Session.compile_unwatched (session : Session (σ × List (Sighting σ))) (cell : Nat)
    (source : Source) :
    (session.compile cell source).1 = (session.unwatched.compile cell source).1 ∧
      (session.compile cell source).2.unwatched = (session.unwatched.compile cell source).2 := by
  have same : session.unwatched.cell? cell = session.cell? cell := rfl
  unfold Session.compile
  rw [same]
  cases session.cell? cell <;> exact ⟨rfl, rfl⟩

theorem Session.unwatched_of_compile {session reached : Session (σ × List (Sighting σ))}
    {cell : Nat} {source : Source} {compiled : Compiled}
    (compiles : session.compile cell source = (compiled, reached)) :
    session.unwatched.compile cell source = (compiled, reached.unwatched) := by
  obtain ⟨left, right⟩ := session.compile_unwatched cell source
  rw [compiles] at left right
  exact Prod.ext left.symm right.symm

theorem Router.watched_paired (router : Router σ ρ) (relay : Relay σ ρ)
    (other : Relay (σ × List (Sighting σ)) ρ) :
    (router.watched relay).Paired (fun s t => s.unwatched = t) other relay router where
  size := by simp [watched]
  candidate {cell _ route'} found found' := by
    obtain ⟨route, inside, rfl⟩ := watched_found found
    obtain rfl := Option.some.inj (inside.symm.trans found')
    refine ⟨rfl, rfl, rfl, ?_, ?_⟩
    · rintro s _ rfl
      exact s.compile_unwatched cell route.source
    · rintro call s _ rfl
      exact ⟨rfl, rfl⟩

theorem Router.serve_watched (router : Router σ ρ) (relay : Relay σ ρ)
    (other : Relay (σ × List (Sighting σ)) ρ) (request : Request) (session : Session σ) :
    ((router.watched relay).serve other request session.watched).1 =
        (router.serve relay request session).1 ∧
      ((router.watched relay).serve other request session.watched).2.unwatched =
        (router.serve relay request session).2 :=
  (router.watched_paired relay other).serve (fun _ _ _ same => congrArg Session.cells same)
    session.unwatched_watched

end

/-! ## Sightings in step -/

structure Sighting.Paired (R : Session σ → Session τ → Prop) (seen : Sighting σ)
    (other : Sighting τ) : Prop where
  call : seen.call = other.call
  session : R seen.session other.session

section

variable {R : Session σ → Session τ → Prop} {relay : Relay σ ρ} {relay' : Relay τ ρ}
  {router : Router σ ρ} {other : Router τ ρ}

theorem Router.Paired.watched (pairs : router.Paired R relay relay' other)
    (watch : Relay (σ × List (Sighting σ)) ρ) (watch' : Relay (τ × List (Sighting τ)) ρ) :
    (router.watched relay).Paired
      (fun s t => R s.unwatched t.unwatched ∧
        List.Forall₂ (Sighting.Paired R) s.env.2 t.env.2)
      watch watch' (other.watched relay') where
  size := by simpa [Router.watched] using pairs.size
  candidate {cell _ _} found found' := by
    obtain ⟨route, inside, rfl⟩ := watched_found found
    obtain ⟨route', inside', rfl⟩ := watched_found found'
    have pair := pairs.candidate inside inside'
    refine ⟨rfl, pair.name, pair.source, ?_, ?_⟩
    · rintro s t ⟨related, seen⟩
      obtain ⟨same, after⟩ := pair.compile related
      obtain ⟨left, left'⟩ := s.compile_unwatched cell route.source
      obtain ⟨right, right'⟩ := t.compile_unwatched cell route'.source
      refine ⟨left.trans (same.trans right.symm), ?_, ?_⟩
      · simpa only [Route.watched, left', right'] using after
      · simpa only [Session.env_compile] using seen
    · rintro call s t ⟨related, seen⟩
      obtain ⟨same, after⟩ := pair.handler call related
      exact ⟨same, after, List.rel_append seen (.cons ⟨rfl, related⟩ .nil)⟩

theorem Router.Paired.sightings (pairs : router.Paired R relay relay' other) {request : Request}
    (looks : request.Looks → ∀ ⦃s t⦄, R s t → s.cells = t.cells) {s : Session σ} {t : Session τ}
    (related : R s t) :
    List.Forall₂ (Sighting.Paired R) (router.sightings relay request s)
      (other.sightings relay' request t) := by
  have watched := pairs.watched (router.watched relay).decline (other.watched relay').decline
  have watchedLooks (looking : request.Looks) {s : Session (σ × List (Sighting σ))}
      {t : Session (τ × List (Sighting τ))} (both : R s.unwatched t.unwatched ∧
        List.Forall₂ (Sighting.Paired R) s.env.2 t.env.2) : s.cells = t.cells :=
    looks looking both.1
  have start : R s.watched.unwatched t.watched.unwatched ∧
      List.Forall₂ (Sighting.Paired R) s.watched.env.2 t.watched.env.2 := ⟨related, .nil⟩
  exact (watched.serve (fun looking _ _ both => watchedLooks looking both) start).2.2

theorem Router.Paired.calls_eq (pairs : router.Paired R relay relay' other) {request : Request}
    (looks : request.Looks → ∀ ⦃s t⦄, R s t → s.cells = t.cells) {s : Session σ} {t : Session τ}
    (related : R s t) : router.calls relay request s = other.calls relay' request t := by
  have same := (pairs.sightings looks related).imp fun _ _ pair => pair.call
  rwa [← List.forall₂_map_right_iff, ← List.forall₂_map_left_iff, List.forall₂_eq_eq_eq] at same

end

theorem Router.Within.sightings_later {router : Router σ ρ} {allowed : Request → Prop}
    (within : router.Within allowed) {request : Request} (granted : allowed request)
    (depth : Nat) {session : Session σ} (valid : session.Valid router) :
    ∀ seen ∈ router.sightings (router.serveWithin depth) request session,
      Session.Later router session seen.session := by
  have keeps := router.keeps_later allowed session
  have pairs := (within.paired keeps (within.serveWithin keeps depth)).sightings
    (keeps.look granted) ⟨rfl, valid.later⟩
  intro seen member
  exact ((List.forall₂_same.mp pairs) seen member).session.2

/-- Which cells are filled does not show in the calls that a request leads to. -/
theorem Router.calls_alike {router : Router σ ρ} (blind : router.Blind) {request : Request}
    (hidden : ¬ request.Looks) (depth : Nat) {s t : Session σ}
    (alike : Session.Alike router s t) :
    router.calls (router.serveWithin depth) request s =
      router.calls (router.serveWithin depth) request t := by
  have keeps := router.keeps_alike
  exact (blind.paired keeps (blind.serveWithin keeps depth)).calls_eq (keeps.look hidden) alike

end PathRouting
