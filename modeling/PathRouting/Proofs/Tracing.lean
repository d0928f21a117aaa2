import PathRouting.Proofs.Dispatch.Recorded

/-!
# Traces tell the truth

A traced dispatch is the dispatch: it ends with the same error or outcome, calls the same handlers
in the same sessions, and leaves the same session.  Its trace has a step for every route that was
looked at, and the steps account for the calls, for the routes left out and for the outcome.
-/

namespace PathRouting

variable {σ ρ : Type}

theorem exists_run_of_trace {relay : Relay σ ρ} {op : Operation}
    {candidates : List (Candidate σ ρ)} {session : Session σ} {trace : Trace ρ}
    (traced : (dispatchTraced relay op candidates session).1 = .ok trace) :
    ∃ path run after, op.effectivePath = .ok path ∧
      offer relay op path 0 .noMatch (some #[]) candidates session = (.ok run, after) ∧
      (dispatchTraced relay op candidates session).2 = after ∧
      trace = ⟨op.kind, path, run.outcome, (run.log.getD #[]).toList, run.skipped⟩ := by
  unfold dispatchTraced at traced ⊢
  cases computes : op.effectivePath with
  | error e => simp [computes] at traced
  | ok path =>
    simp only [computes] at traced ⊢
    cases offered : offer relay op path 0 .noMatch (some #[]) candidates session with
    | mk result after =>
      simp only [offered] at traced ⊢
      cases result with
      | error e => cases traced
      | ok run => exact ⟨path, run, after, rfl, offered, rfl, (Except.ok.inj traced).symm⟩

/-! ## Steps and calls -/

/-- If something goes up by one with every call of a handler, it goes up by the number of steps
that had a handler called. -/
theorem offer_counts {relay : Relay σ ρ} {op : Operation} {path : String} (count : σ → Nat)
    {candidates : List (Candidate σ ρ)}
    (counts : ∀ c ∈ candidates, ∀ call session,
      count (c.route.handler relay call session).2.env = count session.env + 1)
    (index : Nat) (before : Outcome ρ) (log : StepLog) {session after : Session σ} {run : Run ρ}
    (ends : offer relay op path index before log candidates session = (.ok run, after)) :
    ∃ steps : List Step, run.log = log.map (· ++ steps.toArray) ∧
      count after.env = count session.env + steps.countP (·.flow.isSome) := by
  fun_induction offer relay op path index before log candidates session with
  | case1 =>
    cases ends
    exact ⟨[], by simp, by simp⟩
  | case2 => cases ends
  | case3 index before log c rest session matcher reached compiled missed ih =>
    have env := session.env_compile c.cell c.route.source
    obtain ⟨steps, logged, total⟩ := ih (List.forall_mem_cons.mp counts).2 ends
    rw [compiled] at env
    rw [env] at total
    exact ⟨c.route.step index none :: steps,
      logged.trans (log.map_note_append c.route index none steps), total⟩
  | case4 => cases ends
  | case5 index before log c rest session matcher reached compiled found matched call result
      answered goesOn ih =>
    have env := session.env_compile c.cell c.route.source
    obtain ⟨first, others⟩ := List.forall_mem_cons.mp counts
    have one := first call reached
    obtain ⟨steps, logged, total⟩ := ih others ends
    rw [compiled] at env
    rw [goesOn, env] at one
    refine ⟨c.route.step index (some .continued) :: steps,
      logged.trans (log.map_note_append c.route index (some .continued) steps), ?_⟩
    rw [total, one, List.countP_cons_of_pos rfl]
    omega
  | case6 index before log c rest session matcher reached compiled found matched call answered
      refuses =>
    have env := session.env_compile c.cell c.route.source
    have one := counts c List.mem_cons_self call reached
    rw [compiled] at env
    rw [refuses, env] at one
    cases ends
    exact ⟨[c.route.step index (some .rejected)], log.note_eq c.route index (some .rejected), one⟩

/-! ## The account of a trace -/

/-- What a trace says about a dispatch of the operation over the routes in which handlers got
these calls. -/
structure Trace.Accounts (trace : Trace ρ) (op : Operation) (routes : List (Route σ ρ))
    (calls : List Call) : Prop where
  path : op.effectivePath = .ok trace.path
  kind : trace.kind = op.kind
  length : trace.steps.length + trace.skipped = routes.length
  step {k : Nat} {step : Step} : trace.steps[k]? = some step → ∃ route, routes[k]? = some route ∧
    step.index = k ∧ step.route = route.name ∧ step.pattern = route.source.text ∧
    (step.matched = true ↔ step.flow.isSome) ∧ (step.flow.isSome ↔ route.Matches trace.path)
  invoked : trace.invoked = calls.length
  rejected : trace.outcome = .rejected ↔
    ∃ last, trace.steps.getLast? = some last ∧ last.flow = some .rejected
  others : ∀ step ∈ trace.steps.dropLast, step.flow ≠ some .rejected
  skipped : 0 < trace.skipped → trace.outcome = .rejected
  noMatch : trace.outcome = .noMatch ↔ ∀ step ∈ trace.steps, step.matched = false
  handled : (∃ result, trace.outcome = .handled result) ↔
    (∃ step ∈ trace.steps, step.matched = true) ∧
      ∀ step ∈ trace.steps, step.flow ≠ some .rejected

theorem Recorded.accounts {op : Operation} {path : String} {routes : List (Route σ ρ)}
    {steps : List Step} {skipped : Nat} {outcome : Outcome ρ} {calls : List Call}
    (computes : op.effectivePath = .ok path)
    (recorded : Recorded path 0 .noMatch routes steps skipped outcome)
    (counted : steps.countP (·.flow.isSome) = calls.length) :
    Trace.Accounts ⟨op.kind, path, outcome, steps, skipped⟩ op routes calls where
  path := computes
  kind := rfl
  length := recorded.length
  step taken := by
    obtain ⟨route, flow, inside, rfl, matched⟩ := recorded.step taken
    exact ⟨route, inside, Nat.zero_add _, rfl, rfl, Iff.rfl, matched⟩
  invoked := counted
  rejected := by
    cases recorded.ending (by simp) with
    | quiet kept others =>
      refine iff_of_false kept ?_
      rintro ⟨last, ends, refuses⟩
      exact others last (List.mem_of_getLast? ends) refuses
    | refused refuses _ => exact iff_of_true rfl ⟨_, by simp, refuses⟩
  others := by
    cases recorded.ending (by simp) with
    | quiet _ others => exact fun step member => others step (List.dropLast_subset _ member)
    | refused _ others => simpa using others
  skipped left := by
    cases recorded.ending (by simp) with
    | quiet => exact absurd left (Nat.lt_irrefl 0)
    | refused => rfl
  noMatch := by simpa using recorded.noMatch_iff
  handled := by
    have missed := recorded.noMatch_iff
    cases recorded.ending (by simp) with
    | quiet kept others =>
      cases outcome <;> simp_all
    | @refused _ earlier last refuses _ =>
      refine iff_of_false (by simp) ?_
      rintro ⟨-, others⟩
      exact others last (by simp) refuses

/-! ## Traced dispatches -/

namespace Router

variable {router : Router σ ρ} {relay : Relay σ ρ} {op : Operation} {session : Session σ}
  {trace : Trace ρ}

theorem invoked_of_traced
    (traced : (PathRouting.dispatchTraced relay op router.candidates session).1 = .ok trace) :
    trace.invoked = (router.calls relay (.dispatch op) session).length := by
  have watched := (router.serve_watched relay (router.watched relay).decline (.traced op)
    session).1.trans traced
  obtain ⟨path, run, after, -, offered, ended, rfl⟩ := exists_run_of_trace watched
  obtain ⟨steps, logged, counted⟩ := offer_counts (fun env => env.2.length)
    (fun c member call reached => by
      obtain ⟨route, -, seen⟩ := watched_found ((router.watched relay).offers_candidates c member)
      simp [seen, Route.watched, Handler.watched])
    0 .noMatch (some #[]) offered
  have met : router.sightings relay (.traced op) session = after.env.2 := congrArg (·.env.2) ended
  rw [calls, List.length_map, ← sightings_traced, met, counted]
  simp [Trace.invoked, logged, Session.watched]

theorem accounts_of_traced (valid : session.Valid router) (keeps : router.KeepsValid relay)
    (traced : (PathRouting.dispatchTraced relay op router.candidates session).1 = .ok trace) :
    trace.Accounts op router.routes.toList (router.calls relay (.dispatch op) session) := by
  have invoked := invoked_of_traced traced
  obtain ⟨path, run, after, computes, offered, -, rfl⟩ := exists_run_of_trace traced
  have offers := router.offers_candidates
  obtain ⟨steps, logged, recorded⟩ :=
    offer_recorded offers keeps 0 .noMatch (some #[]) valid offered
  rw [map_route_candidates] at recorded
  simp only [Trace.invoked, logged] at invoked ⊢
  simpa using recorded.accounts computes (by simpa using invoked)

end Router

/-- A traced dispatch ends as the dispatch does, with the same calls and the same session, and its
trace accounts for the routes, the calls and the outcome. -/
theorem dispatchTraced_accounts (router : Router σ ρ) (op : Operation) (session : Session σ) :
    (router.dispatchTraced op session).1.map (·.outcome) = (router.dispatch op session).1 ∧
    (router.dispatchTraced op session).2 = (router.dispatch op session).2 ∧
    router.sightings router.relay (.traced op) session =
      router.sightings router.relay (.dispatch op) session ∧
    ∀ trace, (router.dispatchTraced op session).1 = .ok trace → session.Valid router →
      router.KeepsValid router.relay →
      trace.Accounts op router.routes.toList
        (router.calls router.relay (.dispatch op) session) := by
  obtain ⟨sameResult, sameSession⟩ :=
    dispatchTraced_eq_dispatch router.relay op router.candidates session
  refine ⟨sameResult, sameSession, router.sightings_traced router.relay op session, ?_⟩
  intro trace traced valid keeps
  exact Router.accounts_of_traced valid keeps traced

theorem dispatchTraced_accounts_rejected :
    let router : Router Unit String :=
      ⟨#[⟨some "item", .pattern "item/:id", (Reply.echo "item").handler⟩,
        ⟨none, .pattern "other", (Reply.constant "other").handler⟩,
        ⟨none, .any, Reply.reject.handler⟩, ⟨none, .pattern "broken(", Reply.reject.handler⟩]⟩
    let op := Operation.change "item/7"
    ∃ trace, (router.dispatchTraced op (router.session ())).1 = .ok trace ∧
      (router.session ()).Valid router ∧ router.KeepsValid router.relay ∧
      trace.outcome = .rejected ∧ trace.skipped = 1 ∧
      trace.Accounts op router.routes.toList
        (router.calls router.relay (.dispatch op) (router.session ())) := by
  intro router op
  have traced : (router.dispatchTraced op (router.session ())).1 =
      .ok ⟨.change, "item/7", .rejected, [⟨0, some "item", "item/:id", true, some .continued⟩,
        ⟨1, none, "other", false, none⟩, ⟨2, none, "*", true, some .rejected⟩], 1⟩ := by
    unfold Router.dispatchTraced
    decide +kernel
  have scripted : router.Scripted := by
    intro route member
    simp only [router, List.mem_toArray, List.mem_cons, List.not_mem_nil, or_false] at member
    rcases member with rfl | rfl | rfl | rfl <;> exact Reply.handler_within _ _
  have valid := router.valid_session ()
  have keeps : router.KeepsValid router.relay := scripted.keepsValid _
  exact ⟨_, traced, valid, keeps, rfl, rfl,
    (dispatchTraced_accounts router op (router.session ())).2.2.2 _ traced valid keeps⟩

end PathRouting
