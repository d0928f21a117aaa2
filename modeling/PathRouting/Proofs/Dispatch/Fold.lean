import PathRouting.Proofs.Dispatch.Validity

/-!
# A dispatch as a fold

What a dispatch comes to, said of the dispatched sequence as a whole.  It stops at the first route
that does not compile, or that matches and whose handler fails or rejects.  The handlers of the
matching routes up to there are called once each, from left to right, and what stands when nothing
stops the dispatch is the result of the last call.
-/

namespace PathRouting

variable {σ ρ : Type}

/-! ## Dispatches as offers -/

section

variable {relay : Relay σ ρ} {op : Operation} {path : String} {candidates : List (Candidate σ ρ)}
  {session : Session σ}

theorem dispatch_eq_offer (computes : op.effectivePath = .ok path) :
    dispatch relay op candidates session =
      ((offer relay op path 0 .noMatch none candidates session).1.map (·.outcome),
        (offer relay op path 0 .noMatch none candidates session).2) := by
  simp only [dispatch, computes]
  generalize offer relay op path 0 .noMatch none candidates session = offered
  obtain ⟨result, after⟩ := offered
  cases result <;> rfl

theorem dispatchTraced_eq_offer (computes : op.effectivePath = .ok path) :
    dispatchTraced relay op candidates session =
      ((offer relay op path 0 .noMatch (some #[]) candidates session).1.map fun run =>
          ⟨op.kind, path, run.outcome, (run.log.getD #[]).toList, run.skipped⟩,
        (offer relay op path 0 .noMatch (some #[]) candidates session).2) := by
  simp only [dispatchTraced, computes]
  generalize offer relay op path 0 .noMatch (some #[]) candidates session = offered
  obtain ⟨result, after⟩ := offered
  cases result <;> rfl

end

/-! ## Calls -/

/-- The call that a route gets at a position of the sequence, if its pattern matches. -/
def Route.call? (route : Route σ ρ) (op : Operation) (path : String) (index : Nat) : Option Call :=
  match Matcher.compile route.source with
  | .error _ => none
  | .ok matcher => (matcher.matchPath path).map fun found =>
      ⟨index, route.name, op.kind, path, .ofMatch op.kind found op.args⟩

/-- The calls to all routes whose patterns match, in order; `first` is the position of the first
route. -/
def callsTo (op : Operation) (path : String) (first : Nat) (routes : List (Route σ ρ)) :
    List (Route σ ρ × Call) :=
  (routes.zipIdx first).filterMap fun (route, index) => (route.call? op path index).map (route, ·)

/-- The outside state after some calls, one after the other. -/
def stateAfter (answer : Route σ ρ → Answer σ ρ) (state : σ)
    (calls : List (Route σ ρ × Call)) : σ :=
  calls.foldl (fun state (route, call) => (answer route call state).2) state

section

variable {answer : Route σ ρ → Answer σ ρ} {op : Operation} {path : String} {first : Nat}
  {route : Route σ ρ} {routes : List (Route σ ρ)} {state : σ}

theorem Route.call?_of_malformed {e : PatternError}
    (refused : Matcher.compile route.source = .error e) : route.call? op path first = none := by
  simp [call?, refused]

theorem Route.call?_of_missed {matcher : Matcher}
    (compiled : Matcher.compile route.source = .ok matcher)
    (missed : matcher.matchPath path = none) : route.call? op path first = none := by
  simp [call?, compiled, missed]

theorem Route.index_of_call? {call : Call} (called : route.call? op path first = some call) :
    call.index = first := by
  unfold call? at called
  split at called
  · cases called
  · obtain ⟨_, _, rfl⟩ := Option.map_eq_some_iff.mp called
    rfl

@[simp] theorem callsTo_nil : callsTo op path first ([] : List (Route σ ρ)) = [] := rfl

theorem callsTo_cons : callsTo op path first (route :: routes) =
    callsTo op path first [route] ++ callsTo op path (first + 1) routes := by
  simp only [callsTo, List.zipIdx_cons, List.zipIdx_nil, List.filterMap_cons, List.filterMap_nil]
  cases route.call? op path first <;> rfl

theorem callsTo_singleton_of_none (unmatched : route.call? op path first = none) :
    callsTo op path first [route] = [] := by
  simp [callsTo, unmatched]

theorem callsTo_singleton_of_some {call : Call} (called : route.call? op path first = some call) :
    callsTo op path first [route] = [(route, call)] := by
  simp [callsTo, called]

theorem callsTo_append (first : Nat) (routes later : List (Route σ ρ)) :
    callsTo op path first (routes ++ later) =
      callsTo op path first routes ++ callsTo op path (first + routes.length) later := by
  simp only [callsTo, List.zipIdx_append, List.filterMap_append]

@[simp] theorem stateAfter_nil : stateAfter answer state [] = state := rfl

@[simp] theorem stateAfter_singleton {call : Call} :
    stateAfter answer state [(route, call)] = (answer route call state).2 := rfl

theorem stateAfter_append (calls later : List (Route σ ρ × Call)) :
    stateAfter answer state (calls ++ later) =
      stateAfter answer (stateAfter answer state calls) later :=
  List.foldl_append

end

/-! ## Stops -/

/-- A route ends the dispatch with this result when it is reached in this outside state: it does
not compile, or it matches and its handler fails or rejects. -/
inductive Route.Ends (answer : Route σ ρ → Answer σ ρ) (op : Operation) (path : String)
    (index : Nat) (route : Route σ ρ) (state : σ) : Except RouteError (Outcome ρ) → Prop where
  | malformed {e : PatternError} (refused : Matcher.compile route.source = .error e) :
      route.Ends answer op path index state (.error (.pattern e))
  | failed {call : Call} {cause : HandlerError}
      (called : route.call? op path index = some call)
      (fails : (answer route call state).1 = .error cause) :
      route.Ends answer op path index state (.error (.handler index route.label cause))
  | rejected {call : Call} (called : route.call? op path index = some call)
      (rejects : (answer route call state).1 = .ok .reject) :
      route.Ends answer op path index state (.ok .rejected)

/-- The route at position `k` ends the dispatch, if the routes before it were called. -/
def StopsAt (answer : Route σ ρ → Answer σ ρ) (op : Operation) (path : String) (first : Nat)
    (routes : List (Route σ ρ)) (state : σ) (k : Nat)
    (result : Except RouteError (Outcome ρ)) : Prop :=
  ∃ route, routes[k]? = some route ∧ route.Ends answer op path (first + k)
    (stateAfter answer state (callsTo op path first (routes.take k))) result

/-- What stands after some calls that all went on: the result of the last, or what stood before. -/
inductive Kept (answer : Route σ ρ → Answer σ ρ) (state : σ) (before : Outcome ρ) :
    List (Route σ ρ × Call) → Outcome ρ → Prop where
  | before : Kept answer state before [] before
  | last {earlier : List (Route σ ρ × Call)} {route : Route σ ρ} {call : Call} {value : ρ}
      (goesOn : (answer route call (stateAfter answer state earlier)).1 = .ok (.proceed value)) :
      Kept answer state before (earlier ++ [(route, call)]) (.handled value)

/-- The result and the outside state that a dispatch over routes ends with: those of the first
stop, or of all calls if there is none. -/
inductive Folds (answer : Route σ ρ → Answer σ ρ) (op : Operation) (path : String) (first : Nat)
    (before : Outcome ρ) (routes : List (Route σ ρ)) (state : σ) :
    Except RouteError (Outcome ρ) → σ → Prop where
  | stopped {stop : Nat} {result : Except RouteError (Outcome ρ)}
      (stops : StopsAt answer op path first routes state stop result)
      (earliest : ∀ k < stop, ∀ other, ¬ StopsAt answer op path first routes state k other) :
      Folds answer op path first before routes state result
        (stateAfter answer state (callsTo op path first (routes.take (stop + 1))))
  | finished {outcome : Outcome ρ}
      (goesOn : ∀ k result, ¬ StopsAt answer op path first routes state k result)
      (kept : Kept answer state before (callsTo op path first routes) outcome) :
      Folds answer op path first before routes state (.ok outcome)
        (stateAfter answer state (callsTo op path first routes))

/-! ## One route at a time -/

section

variable {answer : Route σ ρ → Answer σ ρ} {op : Operation} {path : String} {first : Nat}
  {before between outcome : Outcome ρ} {route : Route σ ρ} {routes : List (Route σ ρ)}
  {state after : σ} {result : Except RouteError (Outcome ρ)}

theorem Kept.append {calls later : List (Route σ ρ × Call)}
    (kept : Kept answer state before calls between)
    (further : Kept answer (stateAfter answer state calls) between later outcome) :
    Kept answer state before (calls ++ later) outcome := by
  cases further with
  | before => simpa using kept
  | last goesOn =>
    rw [← List.append_assoc]
    exact .last (by rwa [stateAfter_append])

theorem stopsAt_zero_iff : StopsAt answer op path first (route :: routes) state 0 result ↔
    route.Ends answer op path first state result := by
  simp [StopsAt]

theorem stopsAt_succ_iff {k : Nat} :
    StopsAt answer op path first (route :: routes) state (k + 1) result ↔
      StopsAt answer op path (first + 1) routes
        (stateAfter answer state (callsTo op path first [route])) k result := by
  have position : first + (k + 1) = first + 1 + k := by omega
  simp only [StopsAt, List.getElem?_cons_succ, List.take_succ_cons, position]
  rw [callsTo_cons, stateAfter_append]

theorem Folds.of_ends (ends : route.Ends answer op path first state result) :
    Folds answer op path first before (route :: routes) state result
      (stateAfter answer state (callsTo op path first [route])) := by
  have folds : Folds answer op path first before (route :: routes) state result _ :=
    .stopped (stopsAt_zero_iff.mpr ends) fun k impossible => absurd impossible (Nat.not_lt_zero k)
  simpa using folds

theorem Folds.cons (goesOn : ∀ result, ¬ route.Ends answer op path first state result)
    (kept : Kept answer state before (callsTo op path first [route]) between)
    (folds : Folds answer op path (first + 1) between routes
      (stateAfter answer state (callsTo op path first [route])) result after) :
    Folds answer op path first before (route :: routes) state result after := by
  -- A stop in the longer list is never its first route, so it is a stop of the rest.
  have behind {k : Nat} {other : Except RouteError (Outcome ρ)}
      (stops : StopsAt answer op path first (route :: routes) state k other) :
      ∃ j, k = j + 1 ∧ StopsAt answer op path (first + 1) routes
        (stateAfter answer state (callsTo op path first [route])) j other := by
    cases k with
    | zero => exact absurd (stopsAt_zero_iff.mp stops) (goesOn other)
    | succ j => exact ⟨j, rfl, stopsAt_succ_iff.mp stops⟩
  cases folds with
  | @stopped stop _ stops earliest =>
    have folds : Folds answer op path first before (route :: routes) state result
        (stateAfter answer state
          (callsTo op path first ((route :: routes).take (stop + 1 + 1)))) := by
      refine .stopped (stopsAt_succ_iff.mpr stops) fun k inFront other stops => ?_
      obtain ⟨j, rfl, stopsBehind⟩ := behind stops
      exact earliest j (by omega) other stopsBehind
    rwa [List.take_succ_cons, callsTo_cons, stateAfter_append] at folds
  | @finished outcome later further =>
    have folds : Folds answer op path first before (route :: routes) state (.ok outcome)
        (stateAfter answer state (callsTo op path first (route :: routes))) := by
      refine .finished (fun k other stops => ?_) (callsTo_cons ▸ kept.append further)
      obtain ⟨j, rfl, stopsBehind⟩ := behind stops
      exact later j other stopsBehind
    rwa [callsTo_cons, stateAfter_append] at folds

theorem Folds.skip {matcher : Matcher} (compiled : Matcher.compile route.source = .ok matcher)
    (unmatched : route.call? op path first = none)
    (folds : Folds answer op path (first + 1) before routes state result after) :
    Folds answer op path first before (route :: routes) state result after := by
  have called := callsTo_singleton_of_none unmatched
  have goesOn (other : Except RouteError (Outcome ρ)) :
      ¬ route.Ends answer op path first state other := by
    intro ends
    cases ends with
    | malformed refused => simp [compiled] at refused
    | failed called => simp [unmatched] at called
    | rejected called => simp [unmatched] at called
  have kept : Kept answer state before (callsTo op path first [route]) before := by
    rw [called]
    exact .before
  refine .cons goesOn kept ?_
  rwa [called]

theorem Folds.proceed {call : Call} {value : ρ} (called : route.call? op path first = some call)
    (proceeds : (answer route call state).1 = .ok (.proceed value))
    (folds : Folds answer op path (first + 1) (.handled value) routes (answer route call state).2
      result after) :
    Folds answer op path first before (route :: routes) state result after := by
  have only := callsTo_singleton_of_some called
  have goesOn (other : Except RouteError (Outcome ρ)) :
      ¬ route.Ends answer op path first state other := by
    intro ends
    cases ends with
    | malformed refused => simp [Route.call?, refused] at called
    | failed called' fails =>
      obtain rfl := Option.some.inj (called.symm.trans called')
      simp [proceeds] at fails
    | rejected called' rejects =>
      obtain rfl := Option.some.inj (called.symm.trans called')
      simp [proceeds] at rejects
  have kept : Kept answer state before ([] ++ [(route, call)]) (.handled value) := .last proceeds
  rw [List.nil_append, ← only] at kept
  refine .cons goesOn kept ?_
  rwa [only]

end

/-! ## The whole sequence -/

section

variable {router : Router σ ρ} {relay : Relay σ ρ} {op : Operation} {path : String}

theorem offer_folds (answer : Route σ ρ → Answer σ ρ) {candidates : List (Candidate σ ρ)}
    (offers : router.Offers candidates)
    (answers : ∀ c ∈ candidates, c.route.handler.AnswersAs router relay (answer c.route)) :
    ∀ (index : Nat) (before : Outcome ρ) (log : StepLog) {session : Session σ},
      session.Valid router →
      (offer relay op path index before log candidates session).2.Valid router ∧
      Folds answer op path index before (candidates.map (·.route)) session.env
        ((offer relay op path index before log candidates session).1.map (·.outcome))
        (offer relay op path index before log candidates session).2.env := by
  induction candidates with
  | nil =>
    intro index before log session valid
    exact ⟨valid, .finished (fun k result stops => by simp [StopsAt] at stops) .before⟩
  | cons c rest ih =>
    intro index before log session valid
    have found := offers c List.mem_cons_self
    have answersHead := answers c List.mem_cons_self
    have ih := ih (fun d member => offers d (List.mem_cons_of_mem c member))
      fun d member => answers d (List.mem_cons_of_mem c member)
    obtain ⟨reached, compiles, valid, env⟩ := valid.compile_eq found
    rw [List.map_cons, offer, compiles, ← env]
    cases compiled : Matcher.compile c.route.source with
    | error e =>
      have folds : Folds answer op path index before (c.route :: rest.map (·.route)) reached.env
          (.error (.pattern e)) _ :=
        .of_ends (.malformed compiled)
      rw [callsTo_singleton_of_none (Route.call?_of_malformed compiled)] at folds
      exact ⟨valid, folds⟩
    | ok matcher =>
      cases matched : matcher.matchPath path with
      | none =>
        obtain ⟨validAfter, folds⟩ := ih (index + 1) before (log.note index c.route none) valid
        simp only [matched]
        exact ⟨validAfter, .skip compiled (Route.call?_of_missed compiled matched) folds⟩
      | some found =>
        have called : c.route.call? op path index =
            some ⟨index, c.route.name, op.kind, path, .ofMatch op.kind found op.args⟩ := by
          simp [Route.call?, compiled, matched]
        obtain ⟨answered, handled, validAnswered, env⟩ := answersHead.eq valid
          ⟨index, c.route.name, op.kind, path, .ofMatch op.kind found op.args⟩
        have ends {result : Except RouteError (Outcome ρ)}
            (ends : c.route.Ends answer op path index reached.env result) :
            Folds answer op path index before (c.route :: rest.map (·.route)) reached.env result
              answered.env := by
          have folds : Folds answer op path index before (c.route :: rest.map (·.route))
              reached.env result _ := .of_ends ends
          rwa [callsTo_singleton_of_some called, stateAfter_singleton, ← env] at folds
        simp only [matched, handled]
        cases flow : (answer c.route
          ⟨index, c.route.name, op.kind, path, .ofMatch op.kind found op.args⟩ reached.env).1 with
        | error cause => exact ⟨validAnswered, ends (.failed called flow)⟩
        | ok flow' =>
          cases flow' with
          | proceed value =>
            obtain ⟨validAfter, folds⟩ :=
              ih (index + 1) (.handled value) (log.note index c.route (some .continued))
                validAnswered
            exact ⟨validAfter, .proceed called flow (env ▸ folds)⟩
          | reject => exact ⟨validAnswered, ends (.rejected called flow)⟩

end

end PathRouting
