import PathRouting.Proofs.Dispatch.Offering
import PathRouting.Proofs.Dispatch.Cells

/-!
# The course of a dispatch

Which routes a dispatch looks at, whom it calls, and how it ends, whatever the handlers do in the
sessions that they are called in: one rule for each thing that can become of a route.  The cells
that a dispatch fills are those of the routes it has looked at, as long as its handlers fill none.
-/

namespace PathRouting

variable {σ ρ : Type}

/-! ## Filled cells -/

/-- Between the two sessions the cells of the candidates were filled, and no others. -/
structure Session.Fills (candidates : List (Candidate σ ρ)) (before after : Session σ) : Prop where
  filled : ∀ c ∈ candidates, after.cell? c.cell = some (Matcher.compile c.route.source)
  others {cell : Nat} : (∀ c ∈ candidates, c.cell ≠ cell) → after.cell? cell = before.cell? cell

namespace Session.Fills

variable {c : Candidate σ ρ} {candidates : List (Candidate σ ρ)} {before middle after : Session σ}

theorem nil (session : Session σ) : Fills ([] : List (Candidate σ ρ)) session session where
  filled := List.forall_mem_nil _
  others _ := rfl

theorem isSome_iff (fills : Fills candidates before after) (cell : Nat) :
    (after.cell? cell).isSome ↔
      (before.cell? cell).isSome ∨ ∃ c ∈ candidates, c.cell = cell := by
  by_cases looked : ∃ c ∈ candidates, c.cell = cell
  · obtain ⟨c, member, rfl⟩ := looked
    rw [fills.filled c member]
    exact iff_of_true rfl (.inr ⟨c, member, rfl⟩)
  · rw [fills.others fun c member same => looked ⟨c, member, same⟩]
    exact (or_iff_left looked).symm

/-- Candidates for one cell are for one route, so to fill a cell again changes nothing. -/
theorem cons {router : Router σ ρ} (offers : router.Offers (c :: candidates))
    (first : Fills [c] before middle) (rest : Fills candidates middle after) :
    Fills (c :: candidates) before after where
  filled := by
    refine List.forall_mem_cons.mpr ⟨?_, rest.filled⟩
    by_cases again : ∃ d ∈ candidates, d.cell = c.cell
    · -- The cell is filled again later: for the same route, since it stands in the same place.
      obtain ⟨d, member, same⟩ := again
      have found := offers d (List.mem_cons_of_mem c member)
      have route : d.route = c.route := by
        rw [same, offers c List.mem_cons_self] at found
        exact (Option.some.inj found).symm
      rw [← same, rest.filled d member, route]
    · rw [rest.others fun d member same => again ⟨d, member, same⟩]
      exact first.filled c List.mem_cons_self
  others untouched := by
    obtain ⟨other, others⟩ := List.forall_mem_cons.mp untouched
    rw [rest.others others, first.others (List.forall_mem_singleton.mpr other)]

theorem congr_cells (fills : Fills candidates before middle) (same : after.cells = middle.cells) :
    Fills candidates before after := by
  have cell? (cell : Nat) : after.cell? cell = middle.cell? cell := by rw [cell?, same, cell?]
  exact ⟨fun c member => (cell? c.cell).trans (fills.filled c member),
    fun untouched => (cell? _).trans (fills.others untouched)⟩

end Session.Fills

theorem Session.Valid.fills_compile {router : Router σ ρ} {session : Session σ}
    (valid : session.Valid router) {c : Candidate σ ρ}
    (found : router.routes[c.cell]? = some c.route) :
    Session.Fills [c] session (session.compile c.cell c.route.source).2 where
  filled := by
    refine List.forall_mem_singleton.mpr ?_
    unfold Session.compile
    cases holds : session.cell? c.cell with
    | some compiled => rw [holds, valid.holds found holds]
    | none =>
      have inside : c.cell < session.cells.size := by
        rw [valid.size]
        exact (Array.getElem?_eq_some_iff.mp found).1
      exact Session.cell?_fill_self _ inside
  others untouched := session.cell?_compile_ne c.route.source (untouched c List.mem_cons_self)

/-! ## Courses -/

/-- The handler ends a dispatch by its answer to this call. -/
inductive Route.Halts (relay : Relay σ ρ) (route : Route σ ρ) (seen : Sighting σ) :
    Except RouteError (Outcome ρ) → Prop where
  | failed {cause : HandlerError}
      (fails : (route.handler relay seen.call seen.session).1 = .error cause) :
      route.Halts relay seen (.error (.handler seen.call.index route.label cause))
  | rejected (rejects : (route.handler relay seen.call seen.session).1 = .ok .reject) :
      route.Halts relay seen (.ok .rejected)

/-- The course of a dispatch over routes, the first of which is at position `index`: the calls that
it makes, the number of routes that it looks at, and how it ends. -/
inductive Course (relay : Relay σ ρ) (op : Operation) (path : String) :
    Nat → List (Route σ ρ) → List (Sighting σ) → Nat → Except RouteError (Outcome ρ) → Prop where
  | ended {index : Nat} {outcome : Outcome ρ} (quiet : outcome ≠ .rejected) :
      Course relay op path index [] [] 0 (.ok outcome)
  | malformed {index : Nat} {route : Route σ ρ} {rest : List (Route σ ρ)} {e : PatternError}
      (refused : Matcher.compile route.source = .error e) :
      Course relay op path index (route :: rest) [] 1 (.error (.pattern e))
  | missed {index reached : Nat} {route : Route σ ρ} {rest : List (Route σ ρ)}
      {calls : List (Sighting σ)} {result : Except RouteError (Outcome ρ)} {matcher : Matcher}
      (compiled : Matcher.compile route.source = .ok matcher)
      (misses : matcher.matchPath path = none)
      (behind : Course relay op path (index + 1) rest calls reached result) :
      Course relay op path index (route :: rest) calls (reached + 1) result
  | answered {index reached : Nat} {route : Route σ ρ} {rest : List (Route σ ρ)}
      {seen : Sighting σ} {calls : List (Sighting σ)} {result : Except RouteError (Outcome ρ)}
      {value : ρ} (called : route.call? op path index = some seen.call)
      (proceeds : (route.handler relay seen.call seen.session).1 = .ok (.proceed value))
      (behind : Course relay op path (index + 1) rest calls reached result) :
      Course relay op path index (route :: rest) (seen :: calls) (reached + 1) result
  | halted {index : Nat} {route : Route σ ρ} {rest : List (Route σ ρ)} {seen : Sighting σ}
      {result : Except RouteError (Outcome ρ)}
      (called : route.call? op path index = some seen.call)
      (halts : route.Halts relay seen result) :
      Course relay op path index (route :: rest) [seen] 1 result

section

variable {router : Router σ ρ} {relay : Relay σ ρ} {op : Operation} {path : String}
  {candidates : List (Candidate σ ρ)}

theorem Route.call?_of_matched {route : Route σ ρ} {matcher : Matcher} {found : Match}
    (compiled : Matcher.compile route.source = .ok matcher)
    (matched : matcher.matchPath path = some found) (op : Operation) (index : Nat) :
    route.call? op path index = some (route.callAt op path index found) := by
  simp [call?, callAt, compiled, matched]

theorem Session.Valid.of_offer {c : Candidate σ ρ} {session reached : Session σ}
    {compiled : Compiled} (valid : session.Valid router)
    (inside : router.routes[c.cell]? = some c.route)
    (compiles : session.compile c.cell c.route.source = (compiled, reached)) :
    Matcher.compile c.route.source = compiled ∧ reached.Valid router ∧
      Session.Fills [c] session reached := by
  have fills := valid.fills_compile inside
  rw [compiles] at fills
  obtain ⟨same, validReached⟩ := valid.of_compile inside compiles
  exact ⟨same, validReached, fills⟩

theorem Session.Fills.of_handler {c : Candidate σ ρ} {call : Call}
    {session reached after : Session σ} {answer : Except HandlerError (Flow ρ)}
    (fills : Fills [c] session reached) (keeps : c.route.handler.KeepsCells relay)
    (handles : c.route.handler relay call reached = (answer, after)) :
    Fills [c] session after := by
  have same := keeps call reached
  rw [handles] at same
  exact fills.congr_cells same

/-- An offer makes the calls of its course.  If its handlers fill no cells, those that are filled
are those of the routes it has looked at. -/
theorem Offering.course {index : Nat} {before : Outcome ρ} {log : StepLog}
    {session after : Session σ} {calls : List (Sighting σ)} {result : Except RouteError (Run ρ)}
    (offering : Offering relay op path index before log candidates session calls result after)
    (offers : router.Offers candidates)
    (keeps : ∀ c ∈ candidates, c.route.handler.KeepsValid router relay)
    (quiet : before ≠ .rejected) (valid : session.Valid router) :
    ∃ reached, Course relay op path index (candidates.map (·.route)) calls reached
        (result.map (·.outcome)) ∧
      ((∀ c ∈ candidates, c.route.handler.KeepsCells relay) →
        Session.Fills (candidates.take reached) session after) := by
  induction offering with
  | ended => exact ⟨0, .ended quiet, fun _ => .nil _⟩
  | @malformed _ _ _ c _ _ _ _ compiles =>
    obtain ⟨compiled, -, fills⟩ := valid.of_offer (offers c List.mem_cons_self) compiles
    exact ⟨1, .malformed compiled, fun _ => fills⟩
  | @missed _ _ _ c _ _ _ _ _ _ _ compiles misses _ ih =>
    obtain ⟨compiled, valid, fills⟩ := valid.of_offer (offers c List.mem_cons_self) compiles
    obtain ⟨-, keeps⟩ := List.forall_mem_cons.mp keeps
    obtain ⟨n, course, filled⟩ := ih offers.tail keeps quiet valid
    refine ⟨n + 1, .missed compiled misses course, fun plain => ?_⟩
    exact .cons (offers.take (n + 1)) fills (filled (List.forall_mem_cons.mp plain).2)
  | @failed index _ _ c _ _ _ _ _ _ _ compiles matched fails =>
    obtain ⟨compiled, -, fills⟩ := valid.of_offer (offers c List.mem_cons_self) compiles
    have called := Route.call?_of_matched compiled matched op index
    exact ⟨1, .halted called (.failed (congrArg Prod.fst fails)),
      fun plain => fills.of_handler (plain c List.mem_cons_self) fails⟩
  | @rejected index _ _ c _ _ _ _ _ _ compiles matched rejects =>
    obtain ⟨compiled, -, fills⟩ := valid.of_offer (offers c List.mem_cons_self) compiles
    have called := Route.call?_of_matched compiled matched op index
    exact ⟨1, .halted called (.rejected (congrArg Prod.fst rejects)),
      fun plain => fills.of_handler (plain c List.mem_cons_self) rejects⟩
  | @answered index _ _ c _ _ _ _ _ _ _ _ captured _ compiles matched proceeds _ ih =>
    obtain ⟨compiled, valid, fills⟩ := valid.of_offer (offers c List.mem_cons_self) compiles
    have called := Route.call?_of_matched compiled matched op index
    obtain ⟨keepsHere, keeps⟩ := List.forall_mem_cons.mp keeps
    have validAnswered := keepsHere (c.route.callAt op path index captured) valid
    rw [proceeds] at validAnswered
    obtain ⟨n, course, filled⟩ := ih offers.tail keeps nofun validAnswered
    refine ⟨n + 1, .answered called (congrArg Prod.fst proceeds) course, fun plain => ?_⟩
    obtain ⟨plainHere, plain⟩ := List.forall_mem_cons.mp plain
    exact .cons (offers.take (n + 1)) (fills.of_handler plainHere proceeds) (filled plain)

theorem dispatch_course (offers : router.Offers candidates)
    (keeps : ∀ c ∈ candidates, c.route.handler.KeepsValid router relay)
    (computes : op.effectivePath = .ok path) {session : Session σ} (valid : session.Valid router) :
    ∃ reached, Course relay op path 0 (candidates.map (·.route))
        (sighted relay op candidates session) reached (dispatch relay op candidates session).1 ∧
      ((∀ c ∈ candidates, c.route.handler.KeepsCells relay) →
        Session.Fills (candidates.take reached) session
          (dispatch relay op candidates session).2) := by
  rw [dispatch_eq_offer computes]
  exact (sighted_offering computes session).course offers keeps nofun valid

end

/-! ## Where a dispatch stops -/

/-- The route at position `index` ends a dispatch that makes these calls: it does not compile, or
its handler was called there and failed or rejected. -/
inductive Route.Stops (relay : Relay σ ρ) (op : Operation) (path : String)
    (calls : List (Sighting σ)) (index : Nat) (route : Route σ ρ) :
    Except RouteError (Outcome ρ) → Prop where
  | malformed {e : PatternError} (refused : Matcher.compile route.source = .error e) :
      route.Stops relay op path calls index (.error (.pattern e))
  | halted {seen : Sighting σ} {result : Except RouteError (Outcome ρ)} (member : seen ∈ calls)
      (called : route.call? op path index = some seen.call)
      (halts : route.Halts relay seen result) : route.Stops relay op path calls index result

/-- None of the routes, the first of which is at position `index`, ends the dispatch. -/
def NoneStops (relay : Relay σ ρ) (op : Operation) (path : String) (calls : List (Sighting σ))
    (index : Nat) (routes : List (Route σ ρ)) : Prop :=
  ∀ (k : Nat) (route : Route σ ρ), routes[k]? = some route →
    ∀ result, ¬ route.Stops relay op path calls (index + k) result

/-- A dispatch that makes these calls looks at the routes up to and with the first that ends it,
with the result that this route gives.  If there is none, it looks at all. -/
inductive Reach (relay : Relay σ ρ) (op : Operation) (path : String) (calls : List (Sighting σ))
    (index : Nat) (routes : List (Route σ ρ)) : Nat → Except RouteError (Outcome ρ) → Prop where
  | stopped {stop : Nat} {route : Route σ ρ} {result : Except RouteError (Outcome ρ)}
      (found : routes[stop]? = some route)
      (stops : route.Stops relay op path calls (index + stop) result)
      (first : NoneStops relay op path calls index (routes.take stop)) :
      Reach relay op path calls index routes (stop + 1) result
  | finished {outcome : Outcome ρ} (quiet : outcome ≠ .rejected)
      (goesOn : NoneStops relay op path calls index routes) :
      Reach relay op path calls index routes routes.length (.ok outcome)

section

variable {relay : Relay σ ρ} {op : Operation} {path : String} {calls : List (Sighting σ)}
  {index reached : Nat} {route : Route σ ρ} {routes rest : List (Route σ ρ)}
  {result : Except RouteError (Outcome ρ)}

theorem Course.le_index (course : Course relay op path index routes calls reached result) :
    ∀ seen ∈ calls, index ≤ seen.call.index := by
  induction course with
  | ended | malformed => simp
  | missed _ _ _ ih => exact fun seen member => Nat.le_of_succ_le (ih seen member)
  | answered called _ _ ih =>
    have first := Nat.le_of_eq (Route.index_of_call? called).symm
    exact List.forall_mem_cons.mpr ⟨first, fun seen member => Nat.le_of_succ_le (ih seen member)⟩
  | halted called _ =>
    exact List.forall_mem_singleton.mpr (Nat.le_of_eq (Route.index_of_call? called).symm)

theorem Course.calls_eq (course : Course relay op path index routes calls reached result) :
    calls.map (·.call) = (callsTo op path index (routes.take reached)).map (·.2) := by
  induction course with
  | ended => rfl
  | malformed refused => simp [callsTo_singleton_of_none (Route.call?_of_malformed refused)]
  | missed compiled misses _ ih =>
    rw [List.take_succ_cons, callsTo_cons, ih,
      callsTo_singleton_of_none (Route.call?_of_missed compiled misses), List.nil_append]
  | answered called _ _ ih =>
    rw [List.take_succ_cons, callsTo_cons, callsTo_singleton_of_some called, List.map_cons, ih]
    rfl
  | halted called _ => simp [callsTo_singleton_of_some called]

theorem Route.stops_cons_iff {seen : Sighting σ} (other : seen.call.index ≠ index) :
    route.Stops relay op path (seen :: calls) index result ↔
      route.Stops relay op path calls index result := by
  constructor
  · rintro (refused | ⟨member, called, halts⟩)
    · exact .malformed refused
    · rcases List.mem_cons.mp member with rfl | member
      · exact absurd (Route.index_of_call? called) other
      · exact .halted member called halts
  · rintro (refused | ⟨member, called, halts⟩)
    · exact .malformed refused
    · exact .halted (List.mem_cons_of_mem _ member) called halts

theorem NoneStops.nil : NoneStops relay op path calls index ([] : List (Route σ ρ)) :=
  fun _ _ found => by simp at found

theorem NoneStops.cons (goesOn : ∀ result, ¬ route.Stops relay op path calls index result)
    (behind : NoneStops relay op path calls (index + 1) rest) :
    NoneStops relay op path calls index (route :: rest) := by
  intro k other found
  cases k with
  | zero =>
    obtain rfl := Option.some.inj found
    exact goesOn
  | succ k =>
    rw [Nat.add_comm k 1, ← Nat.add_assoc]
    exact behind k other found

theorem NoneStops.note {seen : Sighting σ} (before : seen.call.index < index)
    (goesOn : NoneStops relay op path calls index routes) :
    NoneStops relay op path (seen :: calls) index routes := by
  intro k route found result
  rw [Route.stops_cons_iff (by omega)]
  exact goesOn k route found result

theorem Reach.note {seen : Sighting σ} (before : seen.call.index < index)
    (reach : Reach relay op path calls index routes reached result) :
    Reach relay op path (seen :: calls) index routes reached result := by
  cases reach with
  | stopped found stops first =>
    exact .stopped found ((Route.stops_cons_iff (by omega)).mpr stops) (first.note before)
  | finished quiet goesOn => exact .finished quiet (goesOn.note before)

theorem Reach.cons (goesOn : ∀ result, ¬ route.Stops relay op path calls index result)
    (behind : Reach relay op path calls (index + 1) rest reached result) :
    Reach relay op path calls index (route :: rest) (reached + 1) result := by
  cases behind with
  | @stopped stop _ _ found stops first =>
    rw [Nat.add_assoc, Nat.add_comm 1 stop] at stops
    exact .stopped found stops (.cons goesOn first)
  | finished quiet others => exact .finished quiet (.cons goesOn others)

theorem Reach.head (stops : route.Stops relay op path calls index result) :
    Reach relay op path calls index (route :: rest) 1 result :=
  .stopped rfl stops .nil

theorem Course.reach (course : Course relay op path index routes calls reached result) :
    Reach relay op path calls index routes reached result := by
  induction course with
  | ended quiet => exact .finished quiet .nil
  | malformed refused => exact .head (.malformed refused)
  | @missed index _ route _ _ _ _ compiled misses _ ih =>
    refine ih.cons ?_
    rintro _ (refused | ⟨-, called, -⟩)
    · cases compiled.symm.trans refused
    · cases (Route.call?_of_missed compiled misses).symm.trans called
  | @answered index _ route _ seen calls _ _ called proceeds behind ih =>
    have here := Route.index_of_call? called
    refine (ih.note (by omega)).cons ?_
    rintro _ (refused | ⟨member, called', halts⟩)
    · cases (Route.call?_of_malformed refused).symm.trans called
    · rcases List.mem_cons.mp member with rfl | later
      · cases halts with
        | failed fails => cases proceeds.symm.trans fails
        | rejected rejects => cases proceeds.symm.trans rejects
      · have behind := behind.le_index _ later
        have again := Route.index_of_call? called'
        omega
  | halted called halts => exact .head (.halted (List.mem_singleton_self _) called halts)

end

end PathRouting
