import PathRouting.Proofs.Dispatch.Course
import PathRouting.Proofs.Dispatch.Failures

/-!
# How far a dispatch compiles

Routes are compiled when a dispatch gets to them.  One that ends before its first route leaves the
session as it is; any other fills the cells of the routes up to and with the one that ends it, and
no others, as long as its handlers do not ask the router themselves.
-/

namespace PathRouting

variable {σ ρ : Type}

theorem Operation.ofEvent_of_unsupported {event : Event} (change : event.kind ≠ "route/change")
    (set : event.kind ≠ "route/set") :
    ofEvent event = .error (.unsupportedOperation event.kind) := by
  simp [ofEvent, OperationKind.ofEventType, OperationKind.eventType, change, set, bind, Except.bind]

section

variable {router : Router σ ρ} {relay : Relay σ ρ} {session : Session σ} {event : Event}

theorem Router.serve_event_of_unsupported (change : event.kind ≠ "route/change")
    (set : event.kind ≠ "route/set") :
    router.serve relay (.event event) session =
      (.error (.unsupportedOperation event.kind), session) := by
  simp only [serve, Operation.ofEvent_of_unsupported change set]

theorem Router.sightings_event_of_unsupported (change : event.kind ≠ "route/change")
    (set : event.kind ≠ "route/set") :
    router.sightings relay (.event event) session = [] := by
  rw [sightings, serve_event_of_unsupported change set]
  rfl

end

/-- An event of an unknown kind and a template that does not parse end a dispatch with the session
as it was and no handler called.  Every other dispatch over routes of a router fills the cells of
the routes up to and with the first that ends it, with what compiling their sources gives, and
leaves the other cells as they were. -/
theorem dispatch_fills_up_to_stop {router : Router σ ρ} {session : Session σ}
    (valid : session.Valid router) (relay : Relay σ ρ) :
    (∀ event : Event, event.kind ≠ "route/change" → event.kind ≠ "route/set" →
      router.serve relay (.event event) session =
          (.error (.unsupportedOperation event.kind), session) ∧
        router.sightings relay (.event event) session = []) ∧
    ∀ candidates : List (Candidate σ ρ), router.Offers candidates → ∀ op : Operation,
      (∀ e, op.kind = .set → Pattern.parse op.path = .error e →
        dispatch relay op candidates session = (.error (.pattern e), session) ∧
          sighted relay op candidates session = []) ∧
      ((∀ e, op.kind = .set → Pattern.parse op.path ≠ .error e) →
        (∀ c ∈ candidates, c.route.handler.KeepsCells relay) →
        let routes := candidates.map (·.route)
        let calls := sighted relay op candidates session
        let ended := dispatch relay op candidates session
        ∃ path reached, op.effectivePath = .ok path ∧
          Reach relay op path calls 0 routes reached ended.1 ∧
          calls.map (·.call) = (callsTo op path 0 (routes.take reached)).map (·.2) ∧
          (∀ cell, (ended.2.cell? cell).isSome ↔
            (session.cell? cell).isSome ∨ ∃ c ∈ candidates.take reached, c.cell = cell) ∧
          (∀ c ∈ candidates.take reached,
            ended.2.cell? c.cell = some (Matcher.compile c.route.source)) ∧
          ∀ cell, (∀ c ∈ candidates.take reached, c.cell ≠ cell) →
            ended.2.cell? cell = session.cell? cell) := by
  refine ⟨fun event change set => ?_, fun candidates offers op => ⟨fun e set malformed => ?_,
    fun wellFormed plain => ?_⟩⟩
  · exact ⟨Router.serve_event_of_unsupported change set,
      Router.sightings_event_of_unsupported change set⟩
  · have fails := Operation.effectivePath_eq_error_iff.mpr ⟨set, malformed⟩
    obtain ⟨ended, calls, -⟩ := @dispatch_of_no_path _ _ relay op candidates _ fails session
    exact ⟨ended, calls⟩
  · have computes : ∃ path, op.effectivePath = .ok path := by
      refine exists_ok_iff.mpr fun e fails => ?_
      obtain ⟨set, malformed⟩ := Operation.effectivePath_eq_error_iff.mp fails
      exact wellFormed e set malformed
    obtain ⟨path, computes⟩ := computes
    have keeps : ∀ c ∈ candidates, c.route.handler.KeepsValid router relay :=
      fun c member => (plain c member).keepsValid router
    obtain ⟨reached, course, fills⟩ := dispatch_course offers keeps computes valid
    have fills := fills plain
    exact ⟨path, reached, computes, course.reach, course.calls_eq, fills.isSome_iff, fills.filled,
      fun cell => fills.others⟩

theorem dispatch_fills_up_to_stop_repeated :
    let router : Router Unit String :=
      ⟨#[⟨some "item", .pattern "item/:id", (Reply.echo "item").handler⟩,
        ⟨none, .any, Reply.reject.handler⟩, ⟨none, .pattern "broken(", Reply.reject.handler⟩]⟩
    let session := router.session ()
    let candidates := router.pick [0, 0, 1, 2, 0]
    let routes := candidates.map (·.route)
    let op := Operation.change "item/7"
    let after := (dispatch router.relay op candidates session).2
    session.Valid router ∧ (∀ c ∈ candidates, c.route.handler.KeepsCells router.relay) ∧
      router.serve router.relay (.event ⟨"route/drop", "item/7", ∅, []⟩) session =
        (.error (.unsupportedOperation "route/drop"), session) ∧
      dispatch router.relay (.set "item(" ∅) candidates session =
        (.error (.pattern (.unbalanced "item(" 4)), session) ∧
      ∃ reached, Reach router.relay op "item/7" (sighted router.relay op candidates session) 0
          routes reached (.ok .rejected) ∧
        (∀ cell, (after.cell? cell).isSome ↔
          (session.cell? cell).isSome ∨ ∃ c ∈ candidates.take reached, c.cell = cell) := by
  intro router session candidates routes op after
  have valid : session.Valid router := router.valid_session ()
  have plain : ∀ c ∈ candidates, c.route.handler.KeepsCells router.relay := by
    intro c member
    have inside := Array.mem_of_getElem? (router.offers_pick _ c member)
    simp only [router, List.mem_toArray, List.mem_cons, List.not_mem_nil, or_false] at inside
    rcases inside with same | same | same <;>
      exact same ▸ (Reply.handler_within _ _).keepsCells router.relay
  have rejects : (dispatch router.relay op candidates session).1 = .ok .rejected := by
    decide +kernel
  obtain ⟨events, dispatches⟩ := dispatch_fills_up_to_stop valid router.relay
  obtain ⟨malformed, -⟩ := dispatches candidates (router.offers_pick _) (.set "item(" ∅)
  obtain ⟨-, wellFormed⟩ := dispatches candidates (router.offers_pick _) op
  obtain ⟨path, reached, computes, reach, -, filled, -⟩ :=
    wellFormed (by simp [op, Operation.change]) plain
  obtain rfl := Except.ok.inj computes
  rw [rejects] at reach
  exact ⟨valid, plain, (events _ (by decide) (by decide)).1, (malformed _ rfl rfl).1, reached,
    reach, filled⟩

end PathRouting
