import PathRouting.Proofs.Dispatch.Watching

/-!
# What a dispatch records

The steps that a dispatch records, said of the routes it goes through: one step for each route, and
one end of the steps for each way in which a dispatch that did not fail can end.  Everything a
trace says about a dispatch is read off this relation.
-/

namespace PathRouting

variable {σ ρ : Type}

def Route.Matches (route : Route σ ρ) (path : String) : Prop :=
  ∃ matcher found, Matcher.compile route.source = .ok matcher ∧ matcher.matchPath path = some found

def Route.step (route : Route σ ρ) (index : Nat) (flow : Option StepFlow) : Step :=
  ⟨index, route.name, route.source.text, flow.isSome, flow⟩

theorem StepLog.note_eq (log : StepLog) (route : Route σ ρ) (index : Nat) (flow : Option StepFlow) :
    log.note index route flow = log.map (· ++ [route.step index flow].toArray) := by
  cases log <;> simp [note, Route.step]

theorem StepLog.map_note_append (log : StepLog) (route : Route σ ρ) (index : Nat)
    (flow : Option StepFlow) (steps : List Step) :
    (log.note index route flow).map (· ++ steps.toArray) =
      log.map (· ++ (route.step index flow :: steps).toArray) := by
  cases log <;> simp [note, Route.step]

/-- From a position on, with the outcome `before` so far, going through the routes takes these
steps, leaves out as many routes as it skips, and comes to the outcome. -/
inductive Recorded (path : String) :
    Nat → Outcome ρ → List (Route σ ρ) → List Step → Nat → Outcome ρ → Prop where
  | ended {index : Nat} {before : Outcome ρ} : Recorded path index before [] [] 0 before
  | missed {index skipped : Nat} {before outcome : Outcome ρ} {route : Route σ ρ}
      {routes : List (Route σ ρ)} {steps : List Step} (unmatched : ¬ route.Matches path)
      (rest : Recorded path (index + 1) before routes steps skipped outcome) :
      Recorded path index before (route :: routes) (route.step index none :: steps) skipped outcome
  | continued {index skipped : Nat} {before outcome : Outcome ρ} {route : Route σ ρ}
      {routes : List (Route σ ρ)} {steps : List Step} {result : ρ} (found : route.Matches path)
      (rest : Recorded path (index + 1) (.handled result) routes steps skipped outcome) :
      Recorded path index before (route :: routes) (route.step index (some .continued) :: steps)
        skipped outcome
  | rejected {index : Nat} {before : Outcome ρ} {route : Route σ ρ} {routes : List (Route σ ρ)}
      (found : route.Matches path) :
      Recorded path index before (route :: routes) [route.step index (some .rejected)]
        routes.length .rejected

/-- Either nothing was rejected and nothing skipped, or the last step alone is a rejection. -/
inductive Ending : Outcome ρ → Nat → List Step → Prop where
  | quiet {outcome : Outcome ρ} {steps : List Step} (kept : outcome ≠ .rejected)
      (others : ∀ step ∈ steps, step.flow ≠ some .rejected) : Ending outcome 0 steps
  | refused {skipped : Nat} {earlier : List Step} {last : Step}
      (refuses : last.flow = some .rejected)
      (others : ∀ step ∈ earlier, step.flow ≠ some .rejected) :
      Ending .rejected skipped (earlier ++ [last])

theorem Ending.cons {outcome : Outcome ρ} {skipped : Nat} {steps : List Step} {first : Step}
    (ending : Ending outcome skipped steps) (goesOn : first.flow ≠ some .rejected) :
    Ending outcome skipped (first :: steps) := by
  cases ending with
  | quiet kept others => exact .quiet kept (List.forall_mem_cons.mpr ⟨goesOn, others⟩)
  | @refused _ earlier last refuses others =>
    rw [← List.cons_append]
    exact .refused refuses (List.forall_mem_cons.mpr ⟨goesOn, others⟩)

namespace Recorded

variable {path : String} {index skipped : Nat} {before outcome : Outcome ρ}
  {routes : List (Route σ ρ)} {steps : List Step}

theorem length (recorded : Recorded path index before routes steps skipped outcome) :
    steps.length + skipped = routes.length := by
  induction recorded with
  | ended => rfl
  | missed _ _ ih | continued _ _ ih =>
    simp only [List.length_cons]
    omega
  | rejected =>
    simp only [List.length_cons, List.length_nil]
    omega

theorem step (recorded : Recorded path index before routes steps skipped outcome) {k : Nat}
    {step : Step} (taken : steps[k]? = some step) :
    ∃ route flow, routes[k]? = some route ∧ step = route.step (index + k) flow ∧
      (flow.isSome ↔ route.Matches path) := by
  induction recorded generalizing k with
  | ended => simp at taken
  | @missed index _ _ _ route _ _ unmatched _ ih | @continued index _ _ _ route _ _ _ found _ ih =>
    cases k with
    | zero =>
      obtain rfl := Option.some.inj taken
      exact ⟨route, _, rfl, rfl, by simpa⟩
    | succ k =>
      obtain ⟨later, flow, inside, rfl, matched⟩ := ih taken
      exact ⟨later, flow, inside, by rw [Nat.add_assoc, Nat.add_comm 1 k], matched⟩
  | @rejected index _ route _ found =>
    cases k with
    | zero =>
      obtain rfl := Option.some.inj taken
      exact ⟨route, _, rfl, rfl, by simpa⟩
    | succ k => simp at taken

theorem ending (recorded : Recorded path index before routes steps skipped outcome)
    (undecided : before ≠ .rejected) : Ending outcome skipped steps := by
  induction recorded with
  | ended => exact .quiet undecided (by simp)
  | missed _ _ ih => exact (ih undecided).cons (by simp [Route.step])
  | continued _ _ ih => exact (ih (by simp)).cons (by simp [Route.step])
  | rejected =>
    rw [← List.nil_append [_]]
    exact .refused rfl (by simp)

theorem noMatch_iff (recorded : Recorded path index before routes steps skipped outcome) :
    outcome = .noMatch ↔ before = .noMatch ∧ ∀ step ∈ steps, step.matched = false := by
  induction recorded with
  | ended => simp
  | missed _ _ ih => simpa [Route.step] using ih
  | continued _ _ ih => simpa [Route.step] using ih
  | rejected => simp [Route.step]

end Recorded

/-! ## Recording changes nothing -/

theorem offer_of_log (relay : Relay σ ρ) (op : Operation) (path : String)
    (candidates : List (Candidate σ ρ)) :
    ∀ (index : Nat) (before : Outcome ρ) (log log' : StepLog) (session : Session σ),
      (offer relay op path index before log candidates session).1.map (·.outcome) =
          (offer relay op path index before log' candidates session).1.map (·.outcome) ∧
        (offer relay op path index before log candidates session).2 =
          (offer relay op path index before log' candidates session).2 := by
  induction candidates with
  | nil => exact fun _ _ _ _ _ => ⟨rfl, rfl⟩
  | cons c rest ih =>
    intro index before log log' session
    simp only [offer]
    obtain ⟨_ | matcher, reached⟩ := session.compile c.cell c.route.source
    · exact ⟨rfl, rfl⟩
    · dsimp only
      cases matcher.matchPath path with
      | none => exact ih _ _ _ _ _
      | some found =>
        dsimp only
        obtain ⟨_ | _ | _, answered⟩ := c.route.handler relay
          ⟨index, c.route.name, op.kind, path, .ofMatch op.kind found op.args⟩ reached
        · exact ⟨rfl, rfl⟩
        · exact ih _ _ _ _ _
        · exact ⟨rfl, rfl⟩

theorem dispatchTraced_eq_dispatch (relay : Relay σ ρ) (op : Operation)
    (candidates : List (Candidate σ ρ)) (session : Session σ) :
    (dispatchTraced relay op candidates session).1.map (·.outcome) =
        (dispatch relay op candidates session).1 ∧
      (dispatchTraced relay op candidates session).2 =
        (dispatch relay op candidates session).2 := by
  simp only [dispatchTraced, dispatch]
  cases op.effectivePath with
  | error e => exact ⟨rfl, rfl⟩
  | ok path =>
    have same := offer_of_log relay op path candidates 0 .noMatch (some #[]) none session
    dsimp only
    generalize offer relay op path 0 .noMatch (some #[]) candidates session = traced at same
    generalize offer relay op path 0 .noMatch none candidates session = plain at same
    obtain ⟨_ | run, after⟩ := traced <;> obtain ⟨_ | run', after'⟩ := plain <;>
      simp_all [Except.map]

theorem Router.sightings_traced (router : Router σ ρ) (relay : Relay σ ρ) (op : Operation)
    (session : Session σ) :
    router.sightings relay (.traced op) session = router.sightings relay (.dispatch op) session :=
  congrArg (·.env.2)
    (dispatchTraced_eq_dispatch _ op (router.watched relay).candidates session.watched).2

/-! ## Dispatches that record -/

section

variable {relay : Relay σ ρ} {op : Operation} {path : String} {candidates : List (Candidate σ ρ)}

theorem not_matches_of_compile {route : Route σ ρ} {matcher : Matcher}
    (compiled : Matcher.compile route.source = .ok matcher)
    (missed : matcher.matchPath path = none) : ¬ route.Matches path := by
  rintro ⟨other, found, compiled', matched⟩
  obtain rfl := Except.ok.inj (compiled.symm.trans compiled')
  simp [missed] at matched

theorem offer_recorded {router : Router σ ρ} (offers : router.Offers candidates)
    (keeps : router.KeepsValid relay) (index : Nat) (before : Outcome ρ) (log : StepLog)
    {session after : Session σ} {run : Run ρ} (valid : session.Valid router)
    (ends : offer relay op path index before log candidates session = (.ok run, after)) :
    ∃ steps, run.log = log.map (· ++ steps.toArray) ∧
      Recorded path index before (candidates.map (·.route)) steps run.skipped run.outcome := by
  fun_induction offer relay op path index before log candidates session with
  | case1 =>
    cases ends
    exact ⟨[], by simp, .ended⟩
  | case2 => cases ends
  | case3 index before log c rest session matcher reached compiled missed ih =>
    obtain ⟨sound, valid⟩ := valid.of_compile (offers c List.mem_cons_self) compiled
    obtain ⟨steps, logged, recorded⟩ := ih offers.tail valid ends
    exact ⟨c.route.step index none :: steps,
      logged.trans (log.map_note_append c.route index none steps),
      .missed (not_matches_of_compile sound missed) recorded⟩
  | case4 => cases ends
  | case5 index before log c rest session matcher reached compiled found matched call result
      answered goesOn ih =>
    have inside := offers c List.mem_cons_self
    obtain ⟨sound, valid⟩ := valid.of_compile inside compiled
    have validAnswered := keeps c.route (Array.mem_of_getElem? inside) call valid
    rw [goesOn] at validAnswered
    obtain ⟨steps, logged, recorded⟩ := ih offers.tail validAnswered ends
    exact ⟨c.route.step index (some .continued) :: steps,
      logged.trans (log.map_note_append c.route index (some .continued) steps),
      .continued ⟨matcher, found, sound, matched⟩ recorded⟩
  | case6 index before log c rest session matcher reached compiled found matched call answered =>
    cases ends
    obtain ⟨sound, -⟩ := valid.of_compile (offers c List.mem_cons_self) compiled
    have length : (rest.map (·.route)).length = rest.length := List.length_map _
    refine ⟨[c.route.step index (some .rejected)], log.note_eq c.route index (some .rejected), ?_⟩
    dsimp only
    rw [← length]
    exact .rejected ⟨matcher, found, sound, matched⟩

end

end PathRouting
