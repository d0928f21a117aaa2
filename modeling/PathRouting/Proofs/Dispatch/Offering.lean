import PathRouting.Proofs.Dispatch.Resuming

/-!
# Offers told by their calls

How an operation is offered to candidates, with one rule for each thing that can become of a
candidate, and with the calls that are made on the way.  What a dispatch does with its calls is said
by induction on these rules.
-/

namespace PathRouting

variable {σ ρ : Type}

/-- The call that the route gets at a position for this match. -/
def Route.callAt (route : Route σ ρ) (op : Operation) (path : String) (index : Nat)
    (found : Match) : Call :=
  ⟨index, route.name, op.kind, path, .ofMatch op.kind found op.args⟩

/-- Offering an operation to candidates from a session on makes these calls, ends with this result
and leaves this session. -/
inductive Offering (relay : Relay σ ρ) (op : Operation) (path : String) :
    Nat → Outcome ρ → StepLog → List (Candidate σ ρ) → Session σ → List (Sighting σ) →
      Except RouteError (Run ρ) → Session σ → Prop where
  | ended {index : Nat} {before : Outcome ρ} {log : StepLog} {session : Session σ} :
      Offering relay op path index before log [] session [] (.ok ⟨before, 0, log⟩) session
  | malformed {index : Nat} {before : Outcome ρ} {log : StepLog} {c : Candidate σ ρ}
      {rest : List (Candidate σ ρ)} {session reached : Session σ} {e : PatternError}
      (compiles : session.compile c.cell c.route.source = (.error e, reached)) :
      Offering relay op path index before log (c :: rest) session [] (.error (.pattern e)) reached
  | missed {index : Nat} {before : Outcome ρ} {log : StepLog} {c : Candidate σ ρ}
      {rest : List (Candidate σ ρ)} {session reached after : Session σ}
      {calls : List (Sighting σ)} {result : Except RouteError (Run ρ)} {matcher : Matcher}
      (compiles : session.compile c.cell c.route.source = (.ok matcher, reached))
      (misses : matcher.matchPath path = none)
      (behind : Offering relay op path (index + 1) before (log.note index c.route none) rest
        reached calls result after) :
      Offering relay op path index before log (c :: rest) session calls result after
  | failed {index : Nat} {before : Outcome ρ} {log : StepLog} {c : Candidate σ ρ}
      {rest : List (Candidate σ ρ)} {session reached after : Session σ} {matcher : Matcher}
      {found : Match} {cause : HandlerError}
      (compiles : session.compile c.cell c.route.source = (.ok matcher, reached))
      (matched : matcher.matchPath path = some found)
      (fails : c.route.handler relay (c.route.callAt op path index found) reached =
        (.error cause, after)) :
      Offering relay op path index before log (c :: rest) session
        [⟨c.route.callAt op path index found, reached⟩]
        (.error (.handler index c.route.label cause)) after
  | rejected {index : Nat} {before : Outcome ρ} {log : StepLog} {c : Candidate σ ρ}
      {rest : List (Candidate σ ρ)} {session reached after : Session σ} {matcher : Matcher}
      {found : Match}
      (compiles : session.compile c.cell c.route.source = (.ok matcher, reached))
      (matched : matcher.matchPath path = some found)
      (rejects : c.route.handler relay (c.route.callAt op path index found) reached =
        (.ok .reject, after)) :
      Offering relay op path index before log (c :: rest) session
        [⟨c.route.callAt op path index found, reached⟩]
        (.ok ⟨.rejected, rest.length, log.note index c.route (some .rejected)⟩) after
  | answered {index : Nat} {before : Outcome ρ} {log : StepLog} {c : Candidate σ ρ}
      {rest : List (Candidate σ ρ)} {session reached answered after : Session σ}
      {calls : List (Sighting σ)} {result : Except RouteError (Run ρ)} {matcher : Matcher}
      {found : Match} {value : ρ}
      (compiles : session.compile c.cell c.route.source = (.ok matcher, reached))
      (matched : matcher.matchPath path = some found)
      (proceeds : c.route.handler relay (c.route.callAt op path index found) reached =
        (.ok (.proceed value), answered))
      (behind : Offering relay op path (index + 1) (.handled value)
        (log.note index c.route (some .continued)) rest answered calls result after) :
      Offering relay op path index before log (c :: rest) session
        (⟨c.route.callAt op path index found, reached⟩ :: calls) result after

theorem Session.env_of_compile {session reached : Session σ} {cell : Nat} {source : Source}
    {compiled : Compiled} (compiles : session.compile cell source = (compiled, reached)) :
    reached.env = session.env := by
  rw [← session.env_compile cell source, compiles]

/-- What a watched offer notes are its calls. -/
theorem offer_offering (relay : Relay σ ρ) (op : Operation) (path : String)
    (candidates : List (Candidate σ ρ)) (index : Nat) (before : Outcome ρ) (log : StepLog)
    (session : Session (σ × List (Sighting σ))) :
    let offered := offer relay.watched op path index before log (candidates.map (·.watched relay))
      session
    ∃ calls, offered.2.env.2 = session.env.2 ++ calls ∧
      Offering relay op path index before log candidates session.unwatched calls offered.1
        offered.2.unwatched := by
  -- Each step notes a call behind those that the session has noted before, so the calls are put
  -- together from the front.
  induction candidates generalizing index before log session with
  | nil => exact ⟨[], (List.append_nil _).symm, .ended⟩
  | cons c rest ih =>
    rw [List.map_cons, offer]
    cases compiled : session.compile (c.watched relay).cell (c.watched relay).route.source with
    | mk answer reached =>
      have compiles : session.unwatched.compile c.cell c.route.source =
          (answer, reached.unwatched) := Session.unwatched_of_compile compiled
      rw [← Session.env_of_compile compiled]
      cases answer with
      | error e => exact ⟨[], (List.append_nil _).symm, .malformed compiles⟩
      | ok matcher =>
        dsimp only
        cases matched : matcher.matchPath path with
        | none =>
          obtain ⟨calls, noted, behind⟩ :=
            ih (index + 1) before (log.note index c.route none) reached
          exact ⟨calls, noted, .missed compiles matched behind⟩
        | some found =>
          dsimp only
          cases handled : (c.watched relay).route.handler relay.watched
              ⟨index, (c.watched relay).route.name, op.kind, path, .ofMatch op.kind found op.args⟩
              reached with
          | mk answer after =>
            obtain ⟨answers, leaves, noted⟩ := Candidate.of_watched_handler handled
            have handles : c.route.handler relay (c.route.callAt op path index found)
                reached.unwatched = (answer, after.unwatched) := Prod.ext answers leaves
            cases answer with
            | error cause => exact ⟨_, noted, .failed compiles matched handles⟩
            | ok flow =>
              cases flow with
              | reject =>
                rw [List.length_map]
                exact ⟨_, noted, .rejected compiles matched handles⟩
              | proceed value =>
                obtain ⟨calls, later, behind⟩ := ih (index + 1) (.handled value)
                  (log.note index c.route (some .continued)) after
                refine ⟨_, later.trans ?_, .answered compiles matched handles behind⟩
                rw [noted, List.append_assoc]
                rfl

theorem sighted_offering {relay : Relay σ ρ} {op : Operation} {path : String}
    {candidates : List (Candidate σ ρ)} (computes : op.effectivePath = .ok path)
    (session : Session σ) :
    Offering relay op path 0 .noMatch none candidates session
      (sighted relay op candidates session)
      (offer relay op path 0 .noMatch none candidates session).1
      (offer relay op path 0 .noMatch none candidates session).2 := by
  obtain ⟨result, after⟩ :=
    offer_watched relay op path candidates 0 .noMatch none session.unwatched_watched
  obtain ⟨calls, noted, offering⟩ :=
    offer_offering relay op path candidates 0 .noMatch none session.watched
  have noted : sighted relay op candidates session = calls := by
    rw [sighted_eq_offer computes, noted]
    rfl
  rw [← result, ← after, noted]
  exact offering

end PathRouting
