import PathRouting.Handlers.Gate
import PathRouting.Proofs.Dispatch.Calling
import PathRouting.Proofs.Dispatch.Failures

/-!
# Errors of nested dispatches

A handler may dispatch itself and fail with the error of that dispatch, whose handler may have done
the same.  The error of the outermost dispatch then tells every level once, from the outside to the
inside: where each of them stopped, and at last why the innermost failed.
-/

namespace PathRouting

variable {σ ρ : Type}

/-! ## Where a failing dispatch stops -/

/-- What the error of an offer that leaves this session says of the candidate at the position that
the offer stops at: the candidate was compiled last, or it is the one that the error names. -/
inductive Candidate.Faults (c : Candidate σ ρ) (index : Nat) (after : Session σ) :
    RouteError → Prop where
  | malformed {e : PatternError} {before : Session σ}
      (compiles : before.compile c.cell c.route.source = (.error e, after)) :
      c.Faults index after (.pattern e)
  | failed {cause : HandlerError} : c.Faults index after (.handler index c.route.label cause)

/-- An offer that fails stops at a candidate, and whatever stands behind it makes no difference. -/
theorem offer_of_error {relay : Relay σ ρ} {op : Operation} {path : String}
    {candidates : List (Candidate σ ρ)} {index : Nat} {before : Outcome ρ} {log : StepLog}
    {session after : Session σ} {e : RouteError}
    (fails : offer relay op path index before log candidates session = (.error e, after)) :
    ∃ k c, candidates[k]? = some c ∧ c.Faults (index + k) after e ∧ ∀ later,
      offer relay op path index before log (candidates.take (k + 1) ++ later) session =
        (.error e, after) := by
  fun_induction offer relay op path index before log candidates session with
  | case1 => cases fails
  | case2 index before log c rest session e' reached malformed =>
    cases fails
    refine ⟨0, c, rfl, .malformed malformed, fun later => ?_⟩
    simp only [List.take_succ_cons, List.take_zero, List.cons_append, offer, malformed]
  | case3 index before log c rest session matcher reached compiled missed ih =>
    obtain ⟨k, d, found, faults, same⟩ := ih fails
    refine ⟨k + 1, d, found, ?_, fun later => ?_⟩
    · rwa [Nat.add_assoc, Nat.add_comm 1 k] at faults
    · simp only [List.take_succ_cons, List.cons_append, offer, compiled, missed, same]
  | case4 index before log c rest session matcher reached compiled found matched call cause
      answered failed =>
    cases fails
    refine ⟨0, c, rfl, .failed, fun later => ?_⟩
    simp only [call] at failed
    simp only [List.take_succ_cons, List.take_zero, List.cons_append, offer, compiled, matched,
      failed]
  | case5 index before log c rest session matcher reached compiled found matched call result
      answered goesOn ih =>
    obtain ⟨k, d, inside, faults, same⟩ := ih fails
    refine ⟨k + 1, d, inside, ?_, fun later => ?_⟩
    · rwa [Nat.add_assoc, Nat.add_comm 1 k] at faults
    · simp only [call] at goesOn
      simp only [List.take_succ_cons, List.cons_append, offer, compiled, matched, goesOn, same]
  | case6 => cases fails

theorem dispatch_of_error {relay : Relay σ ρ} {op : Operation} {path : String}
    {candidates : List (Candidate σ ρ)} {session : Session σ} {e : RouteError}
    (computes : op.effectivePath = .ok path)
    (fails : (dispatch relay op candidates session).1 = .error e) :
    ∃ k c, candidates[k]? = some c ∧
      c.Faults k (dispatch relay op candidates session).2 e ∧ ∀ later,
        dispatch relay op (candidates.take (k + 1) ++ later) session =
            dispatch relay op candidates session ∧
          sighted relay op (candidates.take (k + 1) ++ later) session =
            sighted relay op candidates session := by
  rw [dispatch_eq_offer computes] at fails
  have unwatched (candidates : List (Candidate σ ρ)) :=
    offer_watched relay op path candidates 0 .noMatch none session.unwatched_watched
  have watched : offer relay.watched op path 0 .noMatch none (candidates.map (·.watched relay))
      session.watched = (.error e, _) :=
    Prod.ext ((unwatched candidates).1.trans (map_eq_error_iff.mp fails)) rfl
  obtain ⟨k, d, found, faults, same⟩ := offer_of_error watched
  rw [List.getElem?_map] at found
  obtain ⟨c, inside, rfl⟩ := Option.map_eq_some_iff.mp found
  rw [Nat.zero_add] at faults
  refine ⟨k, c, inside, ?_, fun later => ?_⟩
  · rw [dispatch_eq_offer computes, ← (unwatched candidates).2]
    cases faults with
    | malformed compiles => exact .malformed (Session.unwatched_of_compile compiles)
    | failed => exact .failed
  · have seen := (same (later.map (·.watched relay))).trans watched.symm
    rw [← List.map_take, ← List.map_append] at seen
    have answers : offer relay op path 0 .noMatch none (candidates.take (k + 1) ++ later) session =
        offer relay op path 0 .noMatch none candidates session := by
      obtain ⟨result, after⟩ := unwatched (candidates.take (k + 1) ++ later)
      rw [seen] at result after
      exact Prod.ext (result.symm.trans (unwatched candidates).1)
        (after.symm.trans (unwatched candidates).2)
    rw [dispatch_eq_offer computes, dispatch_eq_offer computes, answers,
      sighted_eq_offer computes, sighted_eq_offer computes, seen]
    exact ⟨rfl, rfl⟩

theorem Operation.eq_of_ofEvent {event : Event} {e : RouteError}
    (refused : ofEvent event = .error e) : e = .unsupportedOperation event.kind := by
  unfold ofEvent at refused
  rw [bind_pure_eq_error_iff, OperationKind.ofEventType] at refused
  split at refused
  · cases refused
  · split at refused
    · cases refused
    · exact (Except.error.inj refused).symm

/-! ## Levels -/

/-- A dispatch of an event, made by whoever has some candidates and a session. -/
structure Level where
  {State Result : Type}
  relay : Relay State Result
  event : Event
  candidates : List (Candidate State Result)
  session : Session State

namespace Level

def answer (level : Level) : Except RouteError (Outcome level.Result) × Session level.State :=
  match Operation.ofEvent level.event with
  | .error e => (.error e, level.session)
  | .ok op => dispatch level.relay op level.candidates level.session

/-- The calls that the dispatch makes, without those in dispatches that its handlers make. -/
def calls (level : Level) : List (Sighting level.State) :=
  match Operation.ofEvent level.event with
  | .error _ => []
  | .ok op => sighted level.relay op level.candidates level.session

def Fails (level : Level) (e : RouteError) : Prop :=
  level.answer.1 = .error e

def among (level : Level) (candidates : List (Candidate level.State level.Result)) : Level :=
  { level with candidates := candidates }

/-- The dispatch calls the handler of a route with this label at this position, and the handler
fails for this cause. -/
def FailsAt (level : Level) (index : Nat) (label : String) (cause : HandlerError) : Prop :=
  ∃ c, level.candidates[index]? = some c ∧ label = c.route.label ∧
    ∃ seen ∈ level.calls, seen.call.index = index ∧
      (c.route.handler level.relay seen.call seen.session).1 = .error cause

theorem fails_handler_iff {level : Level} {index : Nat} {label : String} {cause : HandlerError} :
    level.Fails (.handler index label cause) ↔ level.FailsAt index label cause := by
  unfold Fails FailsAt answer calls
  cases supported : Operation.ofEvent level.event with
  | error e =>
    obtain rfl := Operation.eq_of_ofEvent supported
    simp
  | ok op => exact dispatch_eq_error_iff

theorem Fails.unique {level : Level} {e e' : RouteError} (fails : level.Fails e)
    (fails' : level.Fails e') : e = e' :=
  Except.error.inj (fails.symm.trans fails')

end Level

/-! ## Requests as levels -/

def Operation.event (op : Operation) : Event :=
  ⟨op.kind.eventType, op.path, op.data, op.args⟩

@[simp] theorem Operation.ofEvent_event (op : Operation) : ofEvent op.event = .ok op := by
  rw [ofEvent, event, OperationKind.ofEventType_eventType]
  rfl

/-- The dispatch that a request to a router makes, if it makes one. -/
def Router.level? (router : Router σ ρ) (relay : Relay σ ρ) (session : Session σ) :
    Request → Option Level
  | .dispatch op | .traced op => some ⟨relay, op.event, router.candidates, session⟩
  | .event event => some ⟨relay, event, router.candidates, session⟩
  | .picked op indices => some ⟨relay, op.event, router.pick indices, session⟩
  | .validate | .tokens _ | .isCompiled _ => none

theorem Router.serve_fails_iff {router : Router σ ρ} {relay : Relay σ ρ} {session : Session σ}
    {request : Request} {e : RouteError} :
    request.Fails (router.serve relay request session).1 e ↔
      ∃ level, router.level? relay session request = some level ∧ level.Fails e := by
  cases request with
  | dispatch op | picked op indices =>
    simp [level?, Request.Fails, serve, Level.Fails, Level.answer]
  | event event =>
    simp only [level?, Option.some.injEq, exists_eq_left']
    exact Iff.rfl
  | traced op =>
    have same := (dispatchTraced_eq_dispatch relay op router.candidates session).1
    simp only [level?, Request.Fails, serve, Option.some.injEq, exists_eq_left', Level.Fails,
      Level.answer, Operation.ofEvent_event, ← same, map_eq_error_iff]
  | validate | tokens | isCompiled => simp [level?, Request.Fails]

/-! ## Where a level stops -/

/-- The position and the label of a route that a dispatch stops at. -/
structure Stop where
  index : Nat
  label : String

def Stop.text (stop : Stop) : String :=
  "handler for route " ++ toString stop.index ++ " (" ++ stop.label ++ ") failed"

/-- The dispatch looks at no more than the first `reached` of its candidates: it calls no handler
behind them, and whatever stands behind them makes no difference. -/
structure Level.LooksAt (level : Level) (reached : Nat) : Prop where
  calls : ∀ seen ∈ level.calls, seen.call.index < reached
  others (later : List (Candidate level.State level.Result)) :
    (level.among (level.candidates.take reached ++ later)).answer = level.answer ∧
      (level.among (level.candidates.take reached ++ later)).calls = level.calls

/-- The dispatch stops at a route of its own, whose handler fails. -/
structure Level.StopsAt (level : Level) (stop : Stop) : Prop where
  failsAt : ∃ cause, level.FailsAt stop.index stop.label cause
  looksAt : level.LooksAt (stop.index + 1)

/-- Why a dispatch fails that does not fail for another dispatch: a handler has an error of its own,
a route or the template is malformed, or the event is of an unknown kind. -/
inductive Root where
  | failure (index : Nat) (label text : String)
  | pattern (e : PatternError)
  | unsupported (kind : String)

namespace Root

def error : Root → RouteError
  | failure index label text => .handler index label (.message text)
  | pattern e => .pattern e
  | unsupported kind => .unsupportedOperation kind

/-- The texts that tell the cause.  The error of a handler stands behind that of its route, and a
malformed pattern is told once. -/
def texts : Root → List String
  | failure index label text => [Stop.text ⟨index, label⟩, text]
  | pattern e => [e.message]
  | unsupported kind =>
      ["unsupported operation \"" ++ kind ++ "\" — expected \"route/change\" or \"route/set\""]

end Root

/-- A dispatch that fails for this root cause ends where the cause lies, at a route or before all
routes, and looks at nothing behind. -/
inductive Level.EndsFor (level : Level) : Root → Prop where
  | failure {index : Nat} {label text : String}
      (failsAt : level.FailsAt index label (.message text))
      (looksAt : level.LooksAt (index + 1)) : level.EndsFor (.failure index label text)
  | malformed {index : Nat} {c : Candidate level.State level.Result} {e : PatternError}
      {before : Session level.State} (found : level.candidates[index]? = some c)
      (compiles : before.compile c.cell c.route.source = (.error e, level.answer.2))
      (looksAt : level.LooksAt (index + 1)) : level.EndsFor (.pattern e)
  | pathless {op : Operation} {e : PatternError}
      (supported : Operation.ofEvent level.event = .ok op) (fails : op.effectivePath = .error e)
      (looksAt : level.LooksAt 0) : level.EndsFor (.pattern e)
  | unsupported {kind : String}
      (unknown : Operation.ofEvent level.event = .error (.unsupportedOperation kind))
      (looksAt : level.LooksAt 0) : level.EndsFor (.unsupported kind)

section

variable {level : Level}

theorem Level.index_lt_of_mem_calls (level : Level) :
    ∀ seen ∈ level.calls, seen.call.index < level.candidates.length := by
  intro seen member
  unfold calls at member
  cases supported : Operation.ofEvent level.event with
  | error e => simp [supported] at member
  | ok op =>
    rw [supported] at member
    exact index_lt_of_mem_sighted member

theorem Level.LooksAt.of_others {reached : Nat}
    (others : ∀ later : List (Candidate level.State level.Result),
      (level.among (level.candidates.take reached ++ later)).answer = level.answer ∧
        (level.among (level.candidates.take reached ++ later)).calls = level.calls) :
    level.LooksAt reached := by
  refine ⟨fun seen member => ?_, others⟩
  rw [← (others []).2, List.append_nil] at member
  have inside := (level.among (level.candidates.take reached)).index_lt_of_mem_calls seen member
  exact Nat.lt_of_lt_of_le inside (List.length_take_le reached level.candidates)

theorem Level.looksAt_zero_of_unsupported {e : RouteError}
    (unknown : Operation.ofEvent level.event = .error e) : level.LooksAt 0 := by
  refine .of_others fun later => ?_
  unfold answer calls among
  simp only [unknown, and_self]

theorem Level.looksAt_zero_of_pathless {op : Operation} {e : PatternError}
    (supported : Operation.ofEvent level.event = .ok op) (fails : op.effectivePath = .error e) :
    level.LooksAt 0 := by
  refine .of_others fun later => ?_
  unfold answer calls among
  simp only [supported, dispatch_of_no_path fails, and_self]

theorem Level.Fails.faults {op : Operation} {path : String} {e : RouteError}
    (fails : level.Fails e) (supported : Operation.ofEvent level.event = .ok op)
    (computes : op.effectivePath = .ok path) :
    ∃ k c, level.candidates[k]? = some c ∧ c.Faults k level.answer.2 e ∧
      level.LooksAt (k + 1) := by
  have dispatched : level.answer = dispatch level.relay op level.candidates level.session := by
    simp only [answer, supported]
  unfold Fails at fails
  rw [dispatched] at fails
  obtain ⟨k, c, found, faults, others⟩ := dispatch_of_error computes fails
  refine ⟨k, c, found, dispatched ▸ faults, .of_others fun later => ?_⟩
  unfold answer calls among
  simpa only [supported] using others later

theorem Level.Fails.stopsAt {index : Nat} {label : String} {cause : HandlerError}
    (fails : level.Fails (.handler index label cause)) : level.StopsAt ⟨index, label⟩ := by
  refine ⟨⟨cause, fails_handler_iff.mp fails⟩, ?_⟩
  have answered : level.answer.1 = .error (.handler index label cause) := fails
  unfold answer at answered
  cases supported : Operation.ofEvent level.event with
  | error e =>
    obtain rfl := Operation.eq_of_ofEvent supported
    simp [supported] at answered
  | ok op =>
    cases computes : op.effectivePath with
    | error e => simp [supported, dispatch, computes] at answered
    | ok path =>
      obtain ⟨k, c, -, faults, looksAt⟩ := fails.faults supported computes
      cases faults
      exact looksAt

theorem Level.Fails.endsFor {root : Root} (fails : level.Fails root.error) :
    level.EndsFor root := by
  have answered : level.answer.1 = .error root.error := fails
  unfold answer at answered
  cases root with
  | failure index label text =>
    exact .failure (fails_handler_iff.mp fails) fails.stopsAt.looksAt
  | unsupported kind =>
    cases supported : Operation.ofEvent level.event with
    | error e =>
      simp only [supported] at answered
      obtain rfl := Except.error.inj answered
      exact .unsupported supported (looksAt_zero_of_unsupported supported)
    | ok op =>
      cases computes : op.effectivePath with
      | error e => simp [supported, dispatch, computes, Root.error] at answered
      | ok path =>
        obtain ⟨_, _, _, faults, _⟩ := fails.faults supported computes
        cases faults
  | pattern e =>
    cases supported : Operation.ofEvent level.event with
    | error e' =>
      obtain rfl := Operation.eq_of_ofEvent supported
      simp [supported, Root.error] at answered
    | ok op =>
      cases computes : op.effectivePath with
      | error e' =>
        simp only [supported, dispatch, computes] at answered
        obtain rfl := RouteError.pattern.inj (Except.error.inj answered)
        exact .pathless supported computes (looksAt_zero_of_pathless supported computes)
      | ok path =>
        obtain ⟨k, c, found, faults, looksAt⟩ := fails.faults supported computes
        cases faults with
        | malformed compiles => exact .malformed found compiles looksAt

end

/-! ## Chains -/

/-- The error of dispatches inside one another that stop at these routes, the outermost first. -/
def nestedError (root : Root) : List Stop → RouteError
  | [] => root.error
  | stop :: stops => .handler stop.index stop.label (.dispatch (nestedError root stops))

/-- Dispatches inside one another, the outermost first: each but the innermost has a handler that
fails with the error of the next one, and the innermost fails for the root cause. -/
inductive Nested (root : Root) : List Level → Prop where
  | innermost {level : Level} (fails : level.Fails root.error) : Nested root [level]
  | inside {level next : Level} {deeper : List Level} {index : Nat} {label : String}
      {e : RouteError} (failsAt : level.FailsAt index label (.dispatch e)) (made : next.Fails e)
      (inner : Nested root (next :: deeper)) : Nested root (level :: next :: deeper)

theorem message_sources_nestedError (root : Root) (stops : List Stop) :
    (nestedError root stops).message :: (nestedError root stops).sources =
      stops.map Stop.text ++ root.texts := by
  induction stops with
  | nil => cases root <;> rfl
  | cons stop stops ih =>
    rw [List.map_cons, List.cons_append, ← ih]
    rfl

theorem Nested.exists_stops {root : Root} {levels : List Level} (nested : Nested root levels) :
    ∃ stops, List.Forall₂ Level.Fails levels (stops.tails.map (nestedError root)) ∧
      List.Forall₂ Level.StopsAt levels.dropLast stops := by
  induction nested with
  | innermost fails => exact ⟨[], .cons fails .nil, .nil⟩
  | @inside level next deeper index label e failsAt made inner ih =>
    obtain ⟨stops, fails, stopsAt⟩ := ih
    have same : nestedError root stops = e := by
      cases stops with
      | nil | cons =>
        obtain ⟨failsNext, -⟩ := List.forall₂_cons.mp fails
        exact failsNext.unique made
    have failsHere : level.Fails (nestedError root (⟨index, label⟩ :: stops)) := by
      rw [nestedError, same]
      exact Level.fails_handler_iff.mpr failsAt
    exact ⟨⟨index, label⟩ :: stops, .cons failsHere fails, .cons failsHere.stopsAt stopsAt⟩

theorem Nested.innermost_fails {root : Root} {levels : List Level} (nested : Nested root levels)
    {innermost : Level} (last : levels.getLast? = some innermost) : innermost.Fails root.error := by
  induction nested with
  | innermost fails =>
    obtain rfl := Option.some.inj last
    exact fails
  | inside _ _ _ ih => exact ih (by rwa [List.getLast?_cons_cons] at last)

/-- The outermost of some nested dispatches fails in the handler of a route of its own, and the
sources of its error name, from the outside to the inside and once each, the routes that the inner
dispatches stop at, and then the root cause.  Each dispatch returns the error of the levels from it
on, and does not look at the routes behind the one that it stops at; the innermost one stops where
the root cause lies. -/
theorem nested_error_names_levels {root : Root} {outermost next : Level} {deeper : List Level}
    (nested : Nested root (outermost :: next :: deeper)) :
    ∃ first stops,
      outermost.Fails (.handler first.index first.label (.dispatch (nestedError root stops))) ∧
      (nestedError root (first :: stops)).sources = stops.map Stop.text ++ root.texts ∧
      List.Forall₂ Level.Fails (outermost :: next :: deeper)
        ((first :: stops).tails.map (nestedError root)) ∧
      List.Forall₂ Level.StopsAt (outermost :: next :: deeper).dropLast (first :: stops) ∧
      ∀ innermost, (next :: deeper).getLast? = some innermost → innermost.EndsFor root := by
  obtain ⟨_ | ⟨first, stops⟩, fails, stopsAt⟩ := nested.exists_stops
  · cases stopsAt
  · refine ⟨first, stops, (List.forall₂_cons.mp fails).1, ?_, fails, stopsAt, ?_⟩
    · exact message_sources_nestedError root stops
    · intro innermost last
      have fails := nested.innermost_fails (by rwa [List.getLast?_cons_cons])
      exact fails.endsFor

theorem nested_error_names_levels_three :
    let router : Router Unit String :=
      ⟨#[⟨none, .pattern "other", (Reply.constant "other").handler⟩,
        ⟨some "outer", .pattern "a/:id", .nested "outer" "route/change" "b/"⟩,
        ⟨none, .pattern "b/:id", .nested "middle" "route/set" "c/"⟩,
        ⟨some "leaf", .any, (Reply.fail "boom").handler⟩]⟩
    let start := router.session ()
    let called := ((start.compile 0 (.pattern "other")).2.compile 1 (.pattern "a/:id")).2
    let first : Level :=
      ⟨router.serveWithin 2, ⟨"route/change", "a/7", ∅, []⟩, router.candidates, start⟩
    let second : Level :=
      ⟨router.serveWithin 1, ⟨"route/change", "b/7", ∅, []⟩, router.candidates, called⟩
    let third : Level := ⟨router.serveWithin 0, ⟨"route/set", "c/7", ∅, []⟩, router.candidates,
      (called.compile 2 (.pattern "b/:id")).2⟩
    Nested (.failure 3 "leaf" "boom") [first, second, third] ∧
      ∃ e, Request.Fails (.traced (.change "a/7"))
          (router.serve (router.serveWithin 2) (.traced (.change "a/7")) start).1 e ∧
        e.sources = ["handler for route 2 (b/:id) failed", "handler for route 3 (leaf) failed",
          "boom"] := by
  intro router start called first second third
  have innermost : third.Fails (.handler 3 "leaf" (.message "boom")) := by
    show (third.answer.1 : Except RouteError (Outcome String)) = _
    decide +kernel
  have middle : second.Fails (.handler 2 "b/:id" (.dispatch
      (.handler 3 "leaf" (.message "boom")))) := by
    show (second.answer.1 : Except RouteError (Outcome String)) = _
    decide +kernel
  have outermost : first.Fails (.handler 1 "outer" (.dispatch (.handler 2 "b/:id" (.dispatch
      (.handler 3 "leaf" (.message "boom")))))) := by
    show (first.answer.1 : Except RouteError (Outcome String)) = _
    decide +kernel
  have nested : Nested (.failure 3 "leaf" "boom") [first, second, third] :=
    .inside (Level.fails_handler_iff.mp outermost) middle
      (.inside (Level.fails_handler_iff.mp middle) innermost (.innermost innermost))
  obtain ⟨stop, stops, fails, sources, -⟩ := nested_error_names_levels nested
  refine ⟨nested, _, Router.serve_fails_iff.mpr ⟨first, rfl, fails⟩, sources.trans ?_⟩
  -- The error is known, so the only stop below the outermost is the one of the second level.
  have same := fails.unique outermost
  rcases stops with _ | ⟨⟨index, label⟩, _ | ⟨deeper, stops⟩⟩
  · simp [nestedError, Root.error] at same
  · simp only [nestedError, Root.error, RouteError.handler.injEq, HandlerError.dispatch.injEq]
      at same
    obtain ⟨-, -, rfl, rfl, -⟩ := same
    rfl
  · simp [nestedError] at same

end PathRouting
