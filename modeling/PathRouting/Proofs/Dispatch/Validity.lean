import PathRouting.Dispatch.Basic

/-!
# Valid sessions

A session belongs to a router if it has a cell for every route and a filled cell holds what
compiling the source of its route gives.  Compiling keeps a session valid and answers the same in
every valid session, so a dispatch may be described without its cells.  Handlers are described by
what they make of a call and of the state outside the router.
-/

namespace PathRouting

variable {σ ρ : Type}

/-- The cells of the session are those of the router's routes: each is empty or holds the compiled
source of its route. -/
structure Session.Valid (session : Session σ) (router : Router σ ρ) : Prop where
  size : session.cells.size = router.routes.size
  holds {cell : Nat} {route : Route σ ρ} {compiled : Compiled} :
    router.routes[cell]? = some route → session.cell? cell = some compiled →
      compiled = Matcher.compile route.source

/-- The candidates are routes of the router with their own cells, in any order and any number of
times. -/
def Router.Offers (router : Router σ ρ) (candidates : List (Candidate σ ρ)) : Prop :=
  ∀ c ∈ candidates, router.routes[c.cell]? = some c.route

theorem Router.Offers.tail {router : Router σ ρ} {c : Candidate σ ρ} {rest : List (Candidate σ ρ)}
    (offers : router.Offers (c :: rest)) : router.Offers rest :=
  fun d member => offers d (List.mem_cons_of_mem c member)

theorem Router.Offers.take {router : Router σ ρ} {candidates : List (Candidate σ ρ)}
    (offers : router.Offers candidates) (n : Nat) : router.Offers (candidates.take n) :=
  fun c member => offers c (List.take_subset n candidates member)

/-! ## Compiling in a valid session -/

namespace Session.Valid

variable {router : Router σ ρ} {session : Session σ} {cell : Nat} {route : Route σ ρ}

theorem fill (valid : session.Valid router) (found : router.routes[cell]? = some route) :
    (session.fill cell (Matcher.compile route.source)).Valid router where
  size := by simpa [Session.fill] using valid.size
  holds {other} {route'} {compiled} found' filled := by
    by_cases same : cell = other
    · subst same
      obtain rfl : route = route' := Option.some.inj (found.symm.trans found')
      have inside : cell < session.cells.size := by
        rw [valid.size]
        exact (Array.getElem?_eq_some_iff.mp found).1
      rw [cell?_fill_self _ inside] at filled
      exact (Option.some.inj filled).symm
    · rw [cell?_fill_ne _ same] at filled
      exact valid.holds found' filled

/-- What compiling answers in a valid session does not depend on the session, and leaves it
valid. -/
theorem compile_eq (valid : session.Valid router) (found : router.routes[cell]? = some route) :
    ∃ reached, session.compile cell route.source = (Matcher.compile route.source, reached) ∧
      reached.Valid router ∧ reached.env = session.env := by
  unfold Session.compile
  cases filled : session.cell? cell with
  | none => exact ⟨_, rfl, valid.fill found, rfl⟩
  | some compiled =>
    obtain rfl := valid.holds found filled
    exact ⟨session, rfl, valid, rfl⟩

theorem of_compile (valid : session.Valid router) (found : router.routes[cell]? = some route)
    {compiled : Compiled} {reached : Session σ}
    (compiles : session.compile cell route.source = (compiled, reached)) :
    Matcher.compile route.source = compiled ∧ reached.Valid router := by
  obtain ⟨after, same, validAfter, -⟩ := valid.compile_eq found
  obtain ⟨rfl, rfl⟩ := Prod.mk.inj (same.symm.trans compiles)
  exact ⟨rfl, validAfter⟩

end Session.Valid

theorem Router.valid_session (router : Router σ ρ) (env : σ) :
    (router.session env).Valid router where
  size := by simp [session]
  holds {cell _ _} _ filled := by
    by_cases inside : cell < router.routes.size <;> simp [session, Session.cell?, inside] at filled

theorem Router.map_route_candidates (router : Router σ ρ) :
    router.candidates.map (·.route) = router.routes.toList := by
  simp [candidates, Function.comp_def]

theorem Router.getElem?_candidates (router : Router σ ρ) (index : Nat) :
    router.candidates[index]? = router.candidate? index := by
  simp [candidates, candidate?, Function.comp_def]

theorem Router.offers_candidates (router : Router σ ρ) : router.Offers router.candidates := by
  intro c member
  obtain ⟨⟨route, index⟩, found, rfl⟩ := List.mem_map.mp member
  simpa using (List.mem_zipIdx_iff_getElem?.mp found)

theorem Router.offers_pick (router : Router σ ρ) (indices : List Nat) :
    router.Offers (router.pick indices) := by
  intro c member
  obtain ⟨index, -, picked⟩ := List.mem_filterMap.mp member
  obtain ⟨route, found, rfl⟩ := Option.map_eq_some_iff.mp picked
  exact found

/-! ## Handlers as functions of the call and of the outside state -/

/-- What a handler makes of a call and of the state outside the router. -/
abbrev Answer (σ ρ : Type) := Call → σ → Except HandlerError (Flow ρ) × σ

/-- In every valid session the handler answers as `answer` does.  It may compile routes on the way,
by dispatching again. -/
structure Handler.AnswersAs (handler : Handler σ ρ) (router : Router σ ρ) (relay : Relay σ ρ)
    (answer : Answer σ ρ) : Prop where
  result {session : Session σ} : session.Valid router → ∀ call,
    (handler relay call session).1 = (answer call session.env).1
  env {session : Session σ} : session.Valid router → ∀ call,
    (handler relay call session).2.env = (answer call session.env).2
  valid {session : Session σ} : session.Valid router → ∀ call,
    (handler relay call session).2.Valid router

theorem Handler.AnswersAs.eq {handler : Handler σ ρ} {router : Router σ ρ} {relay : Relay σ ρ}
    {answer : Answer σ ρ} {session : Session σ} (answers : handler.AnswersAs router relay answer)
    (valid : session.Valid router) (call : Call) :
    ∃ answered, handler relay call session = ((answer call session.env).1, answered) ∧
      answered.Valid router ∧ answered.env = (answer call session.env).2 :=
  ⟨_, Prod.ext (answers.result valid call) rfl, answers.valid valid call, answers.env valid call⟩

def Handler.ofAnswer (answer : Answer σ ρ) : Handler σ ρ :=
  fun _ call session =>
    ((answer call session.env).1, { session with env := (answer call session.env).2 })

theorem Handler.ofAnswer_answersAs (answer : Answer σ ρ) (router : Router σ ρ)
    (relay : Relay σ ρ) : (Handler.ofAnswer answer).AnswersAs router relay answer where
  result _ _ := rfl
  env _ _ := rfl
  valid valid _ := ⟨valid.size, valid.holds⟩

end PathRouting
