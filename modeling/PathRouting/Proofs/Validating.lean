import PathRouting.Proofs.Dispatch.Course
import PathRouting.Proofs.Dispatch.Failures

/-!
# What validation tells about dispatches

Validation compiles the routes of a router in order, up to the first that does not compile.  The
dispatches over the router compile the same routes in the same order, but end for their handlers
too.  So a dispatch that fails for a pattern fails as validation does; and where validation fails,
every dispatch fails in the same way, unless a handler ends it at an earlier position.
-/

namespace PathRouting

variable {σ ρ : Type}

def AllCompile (routes : List (Route σ ρ)) : Prop :=
  ∀ route ∈ routes, ∃ matcher, Matcher.compile route.source = .ok matcher

/-- The route at position `stop` does not compile, with error `e`, and all earlier routes do. -/
structure MalformedAt (routes : List (Route σ ρ)) (stop : Nat) (e : PatternError) : Prop where
  refused : ∃ route, routes[stop]? = some route ∧ Matcher.compile route.source = .error e
  earlier : AllCompile (routes.take stop)

/-- Compiling routes in order looks at this many and gives this result. -/
inductive Validated (routes : List (Route σ ρ)) : Nat → Except PatternError Unit → Prop where
  | refused {stop : Nat} {e : PatternError} (malformed : MalformedAt routes stop e) :
      Validated routes (stop + 1) (.error e)
  | passed (compiles : AllCompile routes) : Validated routes routes.length (.ok ())

section

variable {route : Route σ ρ} {routes : List (Route σ ρ)} {stop reached : Nat} {e : PatternError}
  {matcher : Matcher} {result : Except PatternError Unit}

/-! ## The first malformed route -/

theorem AllCompile.cons (compiled : Matcher.compile route.source = .ok matcher)
    (compiles : AllCompile routes) : AllCompile (route :: routes) :=
  List.forall_mem_cons.mpr ⟨⟨matcher, compiled⟩, compiles⟩

theorem AllCompile.le {k : Nat} (compiles : AllCompile (routes.take k))
    (found : routes[stop]? = some route) (refused : Matcher.compile route.source = .error e) :
    k ≤ stop := by
  by_contra before
  have taken : (routes.take k)[stop]? = some route := by
    rw [List.getElem?_take_of_lt (by omega), found]
  obtain ⟨matcher, compiled⟩ := compiles route (List.mem_of_getElem? taken)
  cases refused.symm.trans compiled

theorem MalformedAt.head (refused : Matcher.compile route.source = .error e) :
    MalformedAt (route :: routes) 0 e :=
  ⟨⟨route, rfl, refused⟩, List.forall_mem_nil _⟩

theorem MalformedAt.cons (compiled : Matcher.compile route.source = .ok matcher)
    (malformed : MalformedAt routes stop e) : MalformedAt (route :: routes) (stop + 1) e where
  refused := malformed.refused
  earlier := malformed.earlier.cons compiled

theorem MalformedAt.not_compiles (malformed : MalformedAt routes stop e) :
    ¬ AllCompile routes := by
  intro compiles
  obtain ⟨route, found, refused⟩ := malformed.refused
  obtain ⟨matcher, compiled⟩ := compiles route (List.mem_of_getElem? found)
  cases refused.symm.trans compiled

theorem MalformedAt.unique (malformed : MalformedAt routes stop e) {stop' : Nat}
    {e' : PatternError} (malformed' : MalformedAt routes stop' e') : stop = stop' ∧ e = e' := by
  obtain ⟨route, found, refused⟩ := malformed.refused
  obtain ⟨route', found', refused'⟩ := malformed'.refused
  obtain rfl := Nat.le_antisymm (malformed.earlier.le found' refused')
    (malformed'.earlier.le found refused)
  obtain rfl := Option.some.inj (found.symm.trans found')
  exact ⟨rfl, Except.error.inj (refused.symm.trans refused')⟩

/-! ## Validation -/

theorem Validated.cons (compiled : Matcher.compile route.source = .ok matcher)
    (validated : Validated routes reached result) :
    Validated (route :: routes) (reached + 1) result := by
  cases validated with
  | refused malformed => exact .refused (malformed.cons compiled)
  | passed compiles => exact .passed (compiles.cons compiled)

theorem Validated.eq_ok_iff (validated : Validated routes reached result) :
    result = .ok () ↔ AllCompile routes := by
  cases validated with
  | refused malformed => simpa using malformed.not_compiles
  | passed compiles => exact iff_of_true rfl compiles

theorem Validated.eq_error_iff (validated : Validated routes reached result) :
    result = .error e ↔ ∃ stop, MalformedAt routes stop e := by
  constructor
  · rintro rfl
    cases validated with
    | refused malformed => exact ⟨_, malformed⟩
  · rintro ⟨stop, malformed⟩
    cases validated with
    | refused malformed' => rw [(malformed.unique malformed').2]
    | passed compiles => exact absurd compiles malformed.not_compiles

theorem Validated.reached_eq_length (validated : Validated routes reached result)
    (succeeds : result = .ok ()) : reached = routes.length := by
  cases validated with
  | refused => cases succeeds
  | passed => rfl

theorem Validated.reached_eq (validated : Validated routes reached result)
    (malformed : MalformedAt routes stop e) : reached = stop + 1 := by
  cases validated with
  | refused malformed' => rw [(malformed.unique malformed').1]
  | passed compiles => exact absurd compiles malformed.not_compiles

end

section

variable {router : Router σ ρ} {session : Session σ} {candidates : List (Candidate σ ρ)}

theorem compileAll_validated (offers : router.Offers candidates) (valid : session.Valid router) :
    ∃ reached, Validated (candidates.map (·.route)) reached (compileAll candidates session).1 ∧
      Session.Fills (candidates.take reached) session (compileAll candidates session).2 := by
  induction candidates generalizing session with
  | nil => exact ⟨0, .passed (List.forall_mem_nil _), .nil session⟩
  | cons c rest ih =>
    have found := offers c List.mem_cons_self
    have fills := valid.fills_compile found
    obtain ⟨middle, compiles, valid, -⟩ := valid.compile_eq found
    rw [compiles] at fills
    rw [compileAll, compiles]
    cases compiled : Matcher.compile c.route.source with
    | error e => exact ⟨1, .refused (.head compiled), fills⟩
    | ok matcher =>
      obtain ⟨n, validated, filled⟩ := ih offers.tail valid
      exact ⟨n + 1, validated.cons compiled, .cons (offers.take (n + 1)) fills filled⟩

theorem Router.cell_lt_of_mem_take {c : Candidate σ ρ} {n : Nat}
    (member : c ∈ router.candidates.take n) : c.cell < n := by
  obtain ⟨k, inside, rfl⟩ := List.mem_take_iff_getElem.mp member
  have cell : (router.candidates[k]).cell = k := by simp [candidates]
  omega

theorem Session.Fills.cell?_eq {n : Nat} {after : Session σ}
    (fills : Fills (router.candidates.take n) session after) {cell : Nat} {route : Route σ ρ}
    (found : router.routes[cell]? = some route) :
    after.cell? cell =
      if cell < n then some (Matcher.compile route.source) else session.cell? cell := by
  split
  next inside =>
    have taken : (router.candidates.take n)[cell]? = some ⟨cell, route⟩ := by
      rw [List.getElem?_take_of_lt inside, router.getElem?_candidates, Router.candidate?, found]
      rfl
    exact fills.filled ⟨cell, route⟩ (List.mem_of_getElem? taken)
  next behind =>
    refine fills.others fun c member same => behind ?_
    rw [← same]
    exact Router.cell_lt_of_mem_take member

end

/-! ## Dispatches -/

section

variable {relay : Relay σ ρ} {op : Operation} {path : String} {calls : List (Sighting σ)}
  {routes : List (Route σ ρ)} {stop reached : Nat} {e : PatternError}
  {result : Except RouteError (Outcome ρ)}

theorem NoneStops.compiles {index : Nat} (goesOn : NoneStops relay op path calls index routes) :
    AllCompile routes := by
  intro route member
  obtain ⟨k, found⟩ := List.mem_iff_getElem?.mp member
  exact exists_ok_iff.mpr fun e refused => goesOn k route found _ (.malformed refused)

theorem Reach.malformedAt (reach : Reach relay op path calls 0 routes reached result)
    (fails : result = .error (.pattern e)) : ∃ stop, MalformedAt routes stop e := by
  cases reach with
  | finished => cases fails
  | @stopped stop route _ found stops first =>
    cases stops with
    | malformed refused =>
      obtain rfl := RouteError.pattern.inj (Except.error.inj fails)
      exact ⟨stop, ⟨route, found, refused⟩, first.compiles⟩
    | halted _ _ halts =>
      cases halts <;> simp at fails

/-- A dispatch over routes one of which does not compile gets to the first such route, or a handler
ends it before. -/
theorem Reach.of_malformedAt (reach : Reach relay op path calls 0 routes reached result)
    (malformed : MalformedAt routes stop e) :
    (∃ k < stop, ∃ route, routes[k]? = some route ∧ reached = k + 1 ∧
      ∃ seen ∈ calls, route.call? op path k = some seen.call ∧ route.Halts relay seen result) ∨
    (reached = stop + 1 ∧ result = .error (.pattern e)) := by
  obtain ⟨bad, foundBad, refusedBad⟩ := malformed.refused
  cases reach with
  | finished _ goesOn => exact absurd goesOn.compiles malformed.not_compiles
  | @stopped k route _ found stops first =>
    rw [Nat.zero_add] at stops
    have within : k ≤ stop := first.compiles.le foundBad refusedBad
    cases stops with
    | malformed refused =>
      obtain rfl := Nat.le_antisymm within (malformed.earlier.le found refused)
      obtain rfl := Option.some.inj (found.symm.trans foundBad)
      obtain rfl := Except.error.inj (refused.symm.trans refusedBad)
      exact .inr ⟨rfl, rfl⟩
    | @halted seen _ member called halts =>
      have before : k ≠ stop := by
        rintro rfl
        obtain rfl := Option.some.inj (found.symm.trans foundBad)
        cases (Route.call?_of_malformed refusedBad).symm.trans called
      exact .inl ⟨k, by omega, route, found, rfl, seen, member, called, halts⟩

theorem MalformedAt.callsTo_take (malformed : MalformedAt routes stop e) :
    callsTo op path 0 (routes.take (stop + 1)) = callsTo op path 0 (routes.take stop) := by
  obtain ⟨route, found, refused⟩ := malformed.refused
  rw [List.take_add_one, found, Option.toList_some, callsTo_append,
    callsTo_singleton_of_none (Route.call?_of_malformed refused), List.append_nil]

end

/-- Validation succeeds if every source compiles, and else fails for the first route that does not;
it fills the cells of the routes up to there.  A dispatch over the whole router fails for a pattern
only as validation does.  Where validation fails, a handler rejects or fails at an earlier position
and ends the dispatch, or the dispatch fails in the same way, after the handlers of all matching
routes before. -/
theorem validate_predicts_dispatch {router : Router σ ρ} {session : Session σ}
    (valid : session.Valid router) :
    ((router.validate session).1 = .ok () ↔ router.Compiles) ∧
    (∀ e, (router.validate session).1 = .error e ↔
      ∃ stop, MalformedAt router.routes.toList stop e) ∧
    (∀ stop e, MalformedAt router.routes.toList stop e →
      ∀ cell route, router.routes[cell]? = some route →
        (router.validate session).2.cell? cell =
          if cell ≤ stop then some (Matcher.compile route.source) else session.cell? cell) ∧
    (router.Compiles → ∀ cell route, router.routes[cell]? = some route →
      (router.validate session).2.cell? cell = some (Matcher.compile route.source)) ∧
    ∀ relay : Relay σ ρ, router.KeepsValid relay →
    ∀ (op : Operation) (path : String), op.effectivePath = .ok path →
    ∀ start : Session σ, start.Valid router →
      let result := (dispatch relay op router.candidates start).1
      let calls := router.sightings relay (.dispatch op) start
      (∀ e, result = .error (.pattern e) → (router.validate session).1 = .error e) ∧
      ((router.validate session).1 = .ok () → ∀ e, result ≠ .error (.pattern e)) ∧
      ∀ stop e, MalformedAt router.routes.toList stop e →
        (∃ k < stop, ∃ route, router.routes[k]? = some route ∧
          (∃ seen ∈ calls, route.call? op path k = some seen.call ∧ route.Halts relay seen result) ∧
          calls.map (·.call) =
            (callsTo op path 0 (router.routes.toList.take (k + 1))).map (·.2)) ∨
        (result = .error (.pattern e) ∧
          calls.map (·.call) = (callsTo op path 0 (router.routes.toList.take stop)).map (·.2)) := by
  have offers := router.offers_candidates
  have routes := router.map_route_candidates
  obtain ⟨reached, validated, fills⟩ := compileAll_validated offers valid
  rw [routes] at validated
  have okIff : (router.validate session).1 = .ok () ↔ router.Compiles := by
    refine validated.eq_ok_iff.trans ?_
    simp only [AllCompile, Array.mem_toList_iff, Router.Compiles]
  have errorIff (e : PatternError) : (router.validate session).1 = .error e ↔
      ∃ stop, MalformedAt router.routes.toList stop e := validated.eq_error_iff
  refine ⟨okIff, errorIff, fun stop e malformed cell route found => ?_,
    fun compiles cell route found => ?_, fun relay keeps op path computes start validStart => ?_⟩
  · obtain rfl := validated.reached_eq malformed
    rw [Router.validate, fills.cell?_eq found]
    simp only [Nat.lt_succ_iff]
  · obtain rfl := validated.reached_eq_length (okIff.mpr compiles)
    rw [Router.validate, fills.cell?_eq found, Array.length_toList,
      if_pos (Array.getElem?_eq_some_iff.mp found).1]
  · obtain ⟨reached, course, -⟩ :=
      dispatch_course offers (keeps.of_offers offers) computes validStart
    rw [routes] at course
    intro result calls
    have calls_eq : calls = sighted relay op router.candidates start :=
      router.sightings_dispatch relay op start
    rw [← calls_eq] at course
    have reach := course.reach
    have predicts (e : PatternError) (fails : result = .error (.pattern e)) :
        (router.validate session).1 = .error e :=
      (errorIff e).mpr (reach.malformedAt fails)
    refine ⟨predicts, fun succeeds e fails => ?_, fun stop e malformed => ?_⟩
    · cases succeeds.symm.trans (predicts e fails)
    · have called := course.calls_eq
      rcases reach.of_malformedAt malformed with
        ⟨k, before, route, found, rfl, halted⟩ | ⟨rfl, fails⟩
      · exact .inl ⟨k, before, route, by simpa using found, halted, called⟩
      · rw [malformed.callsTo_take] at called
        exact .inr ⟨fails, called⟩

theorem validate_predicts_dispatch_broken :
    let router : Router Unit String :=
      ⟨#[⟨some "item", .pattern "item/:id", (Reply.echo "item").handler⟩,
        ⟨some "gate", .pattern "gate/:id", Reply.reject.handler⟩,
        ⟨none, .pattern "broken(", Reply.reject.handler⟩, ⟨none, .any, Reply.reject.handler⟩]⟩
    let session := router.session ()
    let e := PatternError.unbalanced "broken(" 6
    let gate := Operation.change "gate/7"
    let rejected := (dispatch router.relay gate router.candidates session).1
    session.Valid router ∧ router.KeepsValid router.relay ∧
      MalformedAt router.routes.toList 2 e ∧ (router.validate session).1 = .error e ∧
      (router.validate session).2.cell? 2 = some (.error e) ∧
      (router.validate session).2.cell? 3 = none ∧
      (dispatch router.relay (.change "item/7") router.candidates session).1 =
        .error (.pattern e) ∧
      ((∃ k < 2, ∃ route, router.routes[k]? = some route ∧
          (∃ seen ∈ router.sightings router.relay (.dispatch gate) session,
            route.call? gate "gate/7" k = some seen.call ∧
              route.Halts router.relay seen rejected) ∧
          router.calls router.relay (.dispatch gate) session =
            (callsTo gate "gate/7" 0 (router.routes.toList.take (k + 1))).map (·.2)) ∨
        (rejected = .error (.pattern e) ∧
          router.calls router.relay (.dispatch gate) session =
            (callsTo gate "gate/7" 0 (router.routes.toList.take 2)).map (·.2))) := by
  intro router session e gate rejected
  have scripted : router.Scripted := by
    intro route member
    simp only [router, List.mem_toArray, List.mem_cons, List.not_mem_nil, or_false] at member
    rcases member with rfl | rfl | rfl | rfl <;> exact Reply.handler_within _ _
  have valid : session.Valid router := router.valid_session ()
  have keeps : router.KeepsValid router.relay := scripted.keepsValid _
  have malformed : MalformedAt router.routes.toList 2 e := by
    refine ⟨⟨_, rfl, rfl⟩, ?_⟩
    exact List.forall_mem_cons.mpr ⟨⟨_, rfl⟩, List.forall_mem_singleton.mpr ⟨_, rfl⟩⟩
  have surfaces : (dispatch router.relay (.change "item/7") router.candidates session).1 =
      .error (.pattern e) := by
    decide +kernel
  obtain ⟨-, -, cells, -, predicts⟩ := validate_predicts_dispatch valid
  have item := predicts router.relay keeps (.change "item/7") "item/7" rfl session valid
  have refused := predicts router.relay keeps gate "gate/7" rfl session valid
  exact ⟨valid, keeps, malformed, item.1 e surfaces, cells 2 e malformed 2 _ rfl,
    cells 2 e malformed 3 _ rfl, surfaces, refused.2.2 2 e malformed⟩

end PathRouting
