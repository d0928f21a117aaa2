import Mathlib
import PathRouting.Proofs.Dispatch.Cells
import PathRouting.Proofs.Dispatch.Resuming

/-!
# Appending routes

A dispatch over two lists of routes, one behind the other, is made of the dispatches over each.  It
is the first alone where that ends in a rejection or in an error; else it is the first and then the
second, begun in the session that the first has left, at positions later by the length of the first
list.
-/

namespace PathRouting

variable {σ ρ : Type}

/-- The handler is a function of the call without its index and of the outside state. -/
def Handler.Plain (handler : Handler σ ρ) : Prop :=
  ∃ answer : Answer σ ρ,
    (∀ call index state, answer { call with index := index } state = answer call state) ∧
      handler = .ofAnswer answer

def Sighting.later (shift : Nat) (seen : Sighting σ) : Sighting σ :=
  { seen with call := seen.call.later shift }

/-- The trace with some more routes left out after its rejection. -/
def Trace.skipMore (routes : Nat) (trace : Trace ρ) : Trace ρ :=
  { trace with skipped := trace.skipped + routes }

/-- The trace of a dispatch over `shift` routes that then goes on as another trace says. -/
def Trace.followedBy (shift : Nat) (first rest : Trace ρ) : Trace ρ :=
  { rest with
    outcome := rest.outcome.after first.outcome
    steps := first.steps ++ rest.steps.map (Step.later shift) }

/-- The source of the route is well-formed and does not match the path. -/
def Route.Misses (route : Route σ ρ) (path : String) : Prop :=
  ∃ matcher, Matcher.compile route.source = .ok matcher ∧ matcher.matchPath path = none

/-- The second list is the first with routes put in, anywhere, that miss the path. -/
inductive Padded (path : String) : List (Candidate σ ρ) → List (Candidate σ ρ) → Prop where
  | nil : Padded path [] []
  | kept (c : Candidate σ ρ) {candidates more : List (Candidate σ ρ)}
      (rest : Padded path candidates more) : Padded path (c :: candidates) (c :: more)
  | missed {c : Candidate σ ρ} (misses : c.route.Misses path)
      {candidates more : List (Candidate σ ρ)} (rest : Padded path candidates more) :
      Padded path candidates (c :: more)

theorem stopped_or_open (result : Except RouteError (Outcome ρ)) :
    Stopped result ∨ ∃ outcome, outcome ≠ .rejected ∧ result = .ok outcome := by
  cases result with
  | error e => exact .inl (.failed e)
  | ok outcome =>
    cases outcome with
    | rejected => exact .inl .rejected
    | noMatch => exact .inr ⟨.noMatch, nofun, rfl⟩
    | handled value => exact .inr ⟨.handled value, nofun, rfl⟩

/-! ## Plain handlers -/

theorem Handler.Plain.respects_later {handler : Handler σ ρ} (plain : handler.Plain)
    (shift : Nat) : handler.Respects fun call other => other = call.later shift := by
  obtain ⟨answer, unplaced, rfl⟩ := plain
  rintro relay call _ rfl
  funext session
  have same : answer (call.later shift) session.env = answer call session.env :=
    unplaced call (call.index + shift) session.env
  simp only [Handler.ofAnswer, same]

theorem Handler.Plain.keepsCells {handler : Handler σ ρ} (plain : handler.Plain)
    (relay : Relay σ ρ) : handler.KeepsCells relay := by
  obtain ⟨answer, -, rfl⟩ := plain
  exact fun _ _ => rfl

theorem Handler.Plain.alike {handler : Handler σ ρ} (plain : handler.Plain)
    (router : Router σ ρ) (relay : Relay σ ρ) (call : Call) :
    InStep (Session.Alike router) (handler relay call) (handler relay call) := by
  obtain ⟨answer, -, rfl⟩ := plain
  intro s t alike
  simp only [Handler.ofAnswer, ← alike.env]
  exact ⟨trivial, alike.left.withEnv _, alike.right.withEnv _, rfl⟩

section

variable {relay : Relay σ ρ} {op : Operation} {path : String}
  {earlier later candidates more : List (Candidate σ ρ)} {session middle : Session σ}
  {outcome : Outcome ρ}

/-! ## The first list ends the dispatch -/

theorem dispatch_append_of_stopped (computes : op.effectivePath = .ok path)
    (stopped : Stopped (dispatch relay op earlier session).1) :
    dispatch relay op (earlier ++ later) session = dispatch relay op earlier session := by
  rw [dispatch_eq_offer computes] at stopped
  rw [dispatch_eq_offer computes, dispatch_eq_offer computes,
    offer_append_of_stopped _ stopped]
  cases (offer relay op path 0 .noMatch none earlier session).1 <;> rfl

theorem sighted_append_of_stopped (computes : op.effectivePath = .ok path)
    (stopped : Stopped (dispatch relay op earlier session).1) :
    sighted relay op (earlier ++ later) session = sighted relay op earlier session := by
  obtain ⟨same, -⟩ := offer_watched relay op path earlier 0 .noMatch none session.unwatched_watched
  rw [dispatch_eq_offer computes] at stopped
  dsimp only at stopped
  rw [← same] at stopped
  rw [sighted_eq_offer computes, sighted_eq_offer computes, List.map_append,
    offer_append_of_stopped _ stopped]

theorem dispatchTraced_append_of_stopped (computes : op.effectivePath = .ok path)
    (stopped : Stopped (dispatch relay op earlier session).1) :
    dispatchTraced relay op (earlier ++ later) session =
      ((dispatchTraced relay op earlier session).1.map (·.skipMore later.length),
        (dispatchTraced relay op earlier session).2) := by
  obtain ⟨same, -⟩ := offer_of_log relay op path earlier 0 .noMatch none (some #[]) session
  rw [dispatch_eq_offer computes] at stopped
  dsimp only at stopped
  rw [same] at stopped
  rw [dispatchTraced_eq_offer computes, dispatchTraced_eq_offer computes,
    offer_append_of_stopped _ stopped]
  cases (offer relay op path 0 .noMatch (some #[]) earlier session).1 <;> rfl

theorem dispatch_keeps_other_cells (plain : ∀ c ∈ candidates, c.route.handler.Plain) {cell : Nat}
    (other : ∀ c ∈ candidates, c.cell ≠ cell) :
    (dispatch relay op candidates session).2.cell? cell = session.cell? cell := by
  have pairs : List.Forall₂
      (Candidate.Paired (fun s t => s = t ∧ s.cell? cell = session.cell? cell) relay relay)
      candidates candidates := by
    rw [List.forall₂_same]
    intro c member
    refine ⟨rfl, rfl, rfl, ?_, ?_⟩
    · rintro s _ ⟨rfl, kept⟩
      exact ⟨rfl, rfl, (s.cell?_compile_ne c.route.source (other c member)).trans kept⟩
    · rintro call s _ ⟨rfl, kept⟩
      have untouched := (plain c member).keepsCells relay call s
      refine ⟨rfl, rfl, ?_⟩
      rw [← kept, Session.cell?, untouched, Session.cell?]
  exact (dispatch_inStep pairs op ⟨rfl, rfl⟩).2.2

/-! ## The first list leads on to the second -/

theorem offer_later (plain : ∀ c ∈ candidates, c.route.handler.Plain) (shift : Nat)
    (steps : Array Step) (log : StepLog) :
    offer relay op path shift outcome (log.after steps shift) candidates session =
      (((offer relay op path 0 .noMatch log candidates session).1.map
          (·.after outcome steps shift)).mapError (·.later shift),
        (offer relay op path 0 .noMatch log candidates session).2) := by
  have respects : ∀ c ∈ candidates,
      c.route.handler.Respects fun call other => other = call.later shift :=
    fun c member => (plain c member).respects_later shift
  have resumed : InStep Eq _ (offer relay op path (0 + shift) _ _ candidates) :=
    offer_resumed shift (fun _ _ _ => rfl) outcome steps (forall₂_pairedOn relay respects) 0
      .noMatch log
  obtain ⟨result, after⟩ := resumed (Eq.refl session)
  rw [Nat.zero_add] at result after
  exact Prod.ext result.symm after.symm

theorem dispatch_append_of_open (computes : op.effectivePath = .ok path)
    (plain : ∀ c ∈ later, c.route.handler.Plain) (quiet : outcome ≠ .rejected)
    (goesOn : dispatch relay op earlier session = (.ok outcome, middle)) :
    dispatch relay op (earlier ++ later) session =
      (((dispatch relay op later middle).1.map (·.after outcome)).mapError
          (·.later earlier.length),
        (dispatch relay op later middle).2) := by
  rw [dispatch_eq_offer computes] at goesOn
  obtain ⟨result, rfl⟩ := Prod.mk.inj goesOn
  obtain ⟨run, ends, -, appended⟩ := offer_append_of_open later quiet result
  have unlogged : run.log = StepLog.after #[] earlier.length none := by
    simpa [StepLog.after] using offer_log_isSome (Prod.ext ends rfl)
  rw [unlogged, offer_later plain] at appended
  rw [dispatch_eq_offer computes, dispatch_eq_offer computes, appended]
  generalize offer relay op path 0 .noMatch none later _ = offered
  obtain ⟨_ | run, after⟩ := offered <;> rfl

theorem sighted_append_of_open (computes : op.effectivePath = .ok path)
    (plain : ∀ c ∈ later, c.route.handler.Plain) (quiet : outcome ≠ .rejected)
    (goesOn : dispatch relay op earlier session = (.ok outcome, middle)) :
    sighted relay op (earlier ++ later) session =
      sighted relay op earlier session ++
        (sighted relay op later middle).map (·.later earlier.length) := by
  obtain ⟨same, unwatched⟩ :=
    offer_watched relay op path earlier 0 .noMatch none session.unwatched_watched
  rw [dispatch_eq_offer computes, ← same, ← unwatched] at goesOn
  obtain ⟨result, rfl⟩ := Prod.mk.inj goesOn
  obtain ⟨run, ends, -, appended⟩ :=
    offer_append_of_open (later.map (·.watched relay)) quiet result
  have unlogged : run.log = StepLog.after #[] earlier.length none := by
    simpa [StepLog.after] using offer_log_isSome (Prod.ext ends rfl)
  rw [unlogged, List.length_map] at appended
  rw [sighted_eq_offer computes, sighted_eq_offer computes, sighted_eq_offer computes,
    List.map_append, appended]
  generalize (offer relay.watched op path 0 .noMatch none (earlier.map (·.watched relay))
    session.watched).2 = reached
  -- The second list is watched twice: alone, and behind what was seen of the first.
  let Shifted (seen other : Sighting σ) : Prop := other = seen.later earlier.length
  have respects : ∀ c ∈ later,
      c.route.handler.Respects fun call other => other = call.later earlier.length :=
    fun c member => (plain c member).respects_later earlier.length
  have shifted ⦃call call' : Call⦄ (session : Session σ)
      (related : call' = call.later earlier.length) : Shifted ⟨call, session⟩ ⟨call', session⟩ := by
    rw [related]
    rfl
  have start : Session.SeenAgain Shifted reached.env.2 reached.unwatched.watched reached :=
    ⟨rfl, [], (List.append_nil _).symm, .nil⟩
  have resumed : InStep (Session.SeenAgain Shifted reached.env.2) _
      (offer relay.watched op path (0 + earlier.length) _ _ (later.map (·.watched relay))) :=
    offer_resumed earlier.length (fun _ _ _ => rfl) outcome #[]
      (forall₂_watched_pairedOn relay shifted respects reached.env.2) 0 .noMatch none
  obtain ⟨seen, noted, sightings⟩ := (resumed start).2.sightings
  have seen_eq : seen = (offer relay.watched op path 0 .noMatch none (later.map (·.watched relay))
      reached.unwatched.watched).2.env.2.map (·.later earlier.length) := by
    rw [← List.forall₂_eq_eq_eq, List.forall₂_map_right_iff]
    exact sightings.flip
  rw [Nat.zero_add] at noted
  rw [← seen_eq]
  exact noted

theorem dispatchTraced_append_of_open (computes : op.effectivePath = .ok path)
    (plain : ∀ c ∈ later, c.route.handler.Plain) (quiet : outcome ≠ .rejected)
    (goesOn : dispatch relay op earlier session = (.ok outcome, middle)) :
    ∃ first, dispatchTraced relay op earlier session = (.ok first, middle) ∧
      dispatchTraced relay op (earlier ++ later) session =
        (((dispatchTraced relay op later middle).1.map
            (Trace.followedBy earlier.length first)).mapError (·.later earlier.length),
          (dispatchTraced relay op later middle).2) := by
  obtain ⟨same, after⟩ := offer_of_log relay op path earlier 0 .noMatch none (some #[]) session
  rw [dispatch_eq_offer computes, same, after] at goesOn
  obtain ⟨result, rfl⟩ := Prod.mk.inj goesOn
  obtain ⟨run, ends, rfl, appended⟩ := offer_append_of_open later quiet result
  obtain ⟨steps, logged⟩ : ∃ steps, run.log = some steps :=
    Option.isSome_iff_exists.mp (offer_log_isSome (Prod.ext ends rfl))
  have begun : some steps = StepLog.after steps earlier.length (some #[]) := by
    simp [StepLog.after]
  rw [logged, begun, offer_later plain] at appended
  refine ⟨⟨op.kind, path, run.outcome, steps.toList, run.skipped⟩, ?_, ?_⟩
  · rw [dispatchTraced_eq_offer computes, ends, Except.map, logged]
    rfl
  · rw [dispatchTraced_eq_offer computes, dispatchTraced_eq_offer computes, appended]
    generalize ends : offer relay op path 0 .noMatch (some #[]) later _ = offered
    obtain ⟨e | ⟨outcome, skipped, log⟩, after⟩ := offered
    · rfl
    · obtain ⟨more, rfl⟩ : ∃ more, log = some more :=
        Option.isSome_iff_exists.mp (offer_log_isSome ends)
      simp [Except.map, Except.mapError, Run.after, StepLog.after, Trace.followedBy]

/-! ## Routes that miss the path -/

theorem Padded.sublist (padded : Padded path candidates more) : candidates.Sublist more := by
  induction padded with
  | nil => exact .slnil
  | kept c rest ih => exact ih.cons_cons c
  | missed misses rest ih => exact ih.cons _

theorem dispatch_alike (relay : Relay σ ρ) (op : Operation) {router : Router σ ρ}
    (offers : router.Offers candidates) (plain : ∀ c ∈ candidates, c.route.handler.Plain) :
    InStep (Session.Alike router) (dispatch relay op candidates)
      (dispatch relay op candidates) := by
  have pairs : List.Forall₂ (Candidate.Paired (Session.Alike router) relay relay) candidates
      candidates := by
    rw [List.forall₂_same]
    exact fun c member => ⟨rfl, rfl, rfl, router.keeps_alike.compile (offers c member),
      fun call => (plain c member).alike router relay call⟩
  exact dispatch_inStep pairs op

theorem dispatch_missed (relay : Relay σ ρ) {router : Router σ ρ} {c : Candidate σ ρ}
    (computes : op.effectivePath = .ok path) (misses : c.route.Misses path)
    (found : router.routes[c.cell]? = some c.route) (valid : session.Valid router) :
    ∃ reached, dispatch relay op [c] session = (.ok .noMatch, reached) ∧
      Session.Alike router session reached := by
  obtain ⟨matcher, compiled, missed⟩ := misses
  obtain ⟨reached, compiles, validReached, env⟩ := valid.compile_eq found
  refine ⟨reached, ?_, valid, validReached, env.symm⟩
  rw [dispatch_eq_offer computes]
  simp only [offer, compiles, compiled, missed]
  rfl

theorem after_eq_ok_iff {result other : Except RouteError (Outcome ρ)} (shift : Nat)
    (same : ∀ outcome, result = .ok outcome ↔ other = .ok outcome) (before last : Outcome ρ) :
    (result.map (·.after before)).mapError (·.later shift) = .ok last ↔
      (other.map (·.after before)).mapError (·.later shift) = .ok last := by
  cases result with
  | ok outcome => rw [(same outcome).mp rfl]
  | error e =>
    cases other with
    | ok outcome => exact absurd ((same outcome).mpr rfl) nofun
    | error e' => exact ⟨nofun, nofun⟩

theorem dispatch_padded {router : Router σ ρ} (computes : op.effectivePath = .ok path)
    (padded : Padded path candidates more) (offers : router.Offers more)
    (plain : ∀ c ∈ more, c.route.handler.Plain) (valid : session.Valid router) :
    ∀ outcome, (dispatch relay op more session).1 = .ok outcome ↔
      (dispatch relay op candidates session).1 = .ok outcome := by
  induction padded generalizing session with
  | nil => exact fun _ => Iff.rfl
  | @kept c candidates more rest ih =>
    have plainMore : ∀ d ∈ more, d.route.handler.Plain := fun d member => plain d (.tail c member)
    have plainRest : ∀ d ∈ candidates, d.route.handler.Plain :=
      fun d member => plainMore d (rest.sublist.subset member)
    have offersHead : router.Offers [c] := List.forall_mem_singleton.mpr (offers c (.head more))
    have plainHead : ∀ d ∈ [c], d.route.handler.Plain :=
      List.forall_mem_singleton.mpr (plain c (.head more))
    intro outcome
    change (dispatch relay op ([c] ++ more) session).1 = _ ↔
      (dispatch relay op ([c] ++ candidates) session).1 = _
    rcases stopped_or_open (dispatch relay op [c] session).1 with stopped | ⟨before, quiet, goesOn⟩
    · rw [dispatch_append_of_stopped computes stopped, dispatch_append_of_stopped computes stopped]
    · have reached : dispatch relay op [c] session = (.ok before, _) := Prod.ext goesOn rfl
      have itself : Session.Alike router session session := ⟨valid, valid, rfl⟩
      have validReached := (dispatch_alike relay op offersHead plainHead itself).2.left
      rw [dispatch_append_of_open computes plainMore quiet reached,
        dispatch_append_of_open computes plainRest quiet reached]
      exact after_eq_ok_iff 1 (ih offers.tail plainMore validReached) before outcome
  | @missed c misses candidates more rest ih =>
    have plainMore : ∀ d ∈ more, d.route.handler.Plain := fun d member => plain d (.tail c member)
    obtain ⟨reached, skips, alike⟩ := dispatch_missed relay computes misses
      (offers c (.head more)) valid
    have quiet : (Outcome.noMatch : Outcome ρ) ≠ .rejected := nofun
    have same : (dispatch relay op more session).1 = (dispatch relay op more reached).1 :=
      (dispatch_alike relay op offers.tail plainMore alike).1
    intro outcome
    change (dispatch relay op ([c] ++ more) session).1 = _ ↔ _
    rw [dispatch_append_of_open computes plainMore quiet skips, ← same,
      ← ih offers.tail plainMore valid]
    cases (dispatch relay op more session).1 with
    | error e => exact ⟨nofun, nofun⟩
    | ok last => simp [Except.map, Except.mapError]

end

/-- A dispatch over two lists is the dispatch over the first where that is rejected or fails: the
routes of the second are then only counted as skipped.  Else it makes the calls of the first and
then those of the second, begun in the session that the first has left, with all positions later by
the length of the first; it has the result of the second, with the outcome of the first in the
place of no match.  Routes that miss the path, wherever they are put in, change no outcome. -/
theorem dispatch_append (relay : Relay σ ρ) {op : Operation} {path : String}
    (computes : op.effectivePath = .ok path) {earlier later : List (Candidate σ ρ)}
    (plain : ∀ c ∈ earlier ++ later, c.route.handler.Plain) (session : Session σ) :
    (Stopped (dispatch relay op earlier session).1 →
      dispatch relay op (earlier ++ later) session = dispatch relay op earlier session ∧
      sighted relay op (earlier ++ later) session = sighted relay op earlier session ∧
      dispatchTraced relay op (earlier ++ later) session =
        ((dispatchTraced relay op earlier session).1.map (·.skipMore later.length),
          (dispatchTraced relay op earlier session).2) ∧
      ∀ cell, (∀ c ∈ earlier, c.cell ≠ cell) →
        (dispatch relay op (earlier ++ later) session).2.cell? cell = session.cell? cell) ∧
    (∀ outcome middle, outcome ≠ .rejected →
      dispatch relay op earlier session = (.ok outcome, middle) →
      dispatch relay op (earlier ++ later) session =
        (((dispatch relay op later middle).1.map (·.after outcome)).mapError
            (·.later earlier.length),
          (dispatch relay op later middle).2) ∧
      sighted relay op (earlier ++ later) session =
        sighted relay op earlier session ++
          (sighted relay op later middle).map (·.later earlier.length) ∧
      ∃ first, dispatchTraced relay op earlier session = (.ok first, middle) ∧
        dispatchTraced relay op (earlier ++ later) session =
          (((dispatchTraced relay op later middle).1.map
              (Trace.followedBy earlier.length first)).mapError (·.later earlier.length),
            (dispatchTraced relay op later middle).2)) ∧
    ∀ (router : Router σ ρ) (more : List (Candidate σ ρ)), session.Valid router →
      router.Offers more → (∀ c ∈ more, c.route.handler.Plain) →
      Padded path (earlier ++ later) more →
      ∀ outcome, (dispatch relay op more session).1 = .ok outcome ↔
        (dispatch relay op (earlier ++ later) session).1 = .ok outcome := by
  have plainEarlier : ∀ c ∈ earlier, c.route.handler.Plain :=
    fun c member => plain c (List.mem_append_left later member)
  have plainLater : ∀ c ∈ later, c.route.handler.Plain :=
    fun c member => plain c (List.mem_append_right earlier member)
  refine ⟨fun stopped => ?_, fun outcome middle quiet goesOn => ?_, ?_⟩
  · have same : dispatch relay op (earlier ++ later) session = dispatch relay op earlier session :=
      dispatch_append_of_stopped computes stopped
    refine ⟨same, sighted_append_of_stopped computes stopped,
      dispatchTraced_append_of_stopped computes stopped, fun cell other => ?_⟩
    rw [same]
    exact dispatch_keeps_other_cells plainEarlier other
  · exact ⟨dispatch_append_of_open computes plainLater quiet goesOn,
      sighted_append_of_open computes plainLater quiet goesOn,
      dispatchTraced_append_of_open computes plainLater quiet goesOn⟩
  · exact fun router more valid offers plainMore padded =>
      dispatch_padded computes padded offers plainMore valid

theorem dispatch_append_rejected :
    let answer (name : Option String) : Answer (List String) String := fun call paths =>
      (if name = some "gate" then .ok .reject else .ok (.proceed call.path), call.path :: paths)
    let route (name text : String) : Route (List String) String :=
      ⟨some name, .pattern text, .ofAnswer (answer (some name))⟩
    let router : Router (List String) String :=
      ⟨#[route "item" "item/:id", route "gate" "item/:id?", route "broken" "item(",
        route "user" "user/:id"]⟩
    let op : Operation := .change "item/7"
    let item : Candidate (List String) String := ⟨0, route "item" "item/:id"⟩
    let gate : Candidate (List String) String := ⟨1, route "gate" "item/:id?"⟩
    let broken : Candidate (List String) String := ⟨2, route "broken" "item("⟩
    let user : Candidate (List String) String := ⟨3, route "user" "user/:id"⟩
    let session := router.session []
    Stopped (dispatch router.relay op [item, gate] session).1 ∧
      dispatch router.relay op ([item, gate] ++ [broken]) session =
        dispatch router.relay op [item, gate] session ∧
      (dispatch router.relay op ([item, gate] ++ [broken]) session).2.cell? 2 = none ∧
      (∃ middle, dispatch router.relay op [item] session = (.ok (.handled "item/7"), middle) ∧
        dispatch router.relay op ([item] ++ [gate, broken]) session =
          (((dispatch router.relay op [gate, broken] middle).1.map
              (·.after (.handled "item/7"))).mapError (·.later 1),
            (dispatch router.relay op [gate, broken] middle).2)) ∧
      ((dispatch router.relay op [user, item, user, item] session).1 = .ok (.handled "item/7") ↔
        (dispatch router.relay op ([item] ++ [item]) session).1 = .ok (.handled "item/7")) := by
  intro answer route router op item gate broken user session
  have plainRoute (name text : String) : (route name text).handler.Plain :=
    ⟨answer (some name), fun _ _ _ => rfl, rfl⟩
  have plain : (∀ c ∈ [item, gate, broken], c.route.handler.Plain) ∧
      (∀ c ∈ [item, item], c.route.handler.Plain) ∧
      ∀ c ∈ [user, item, user, item], c.route.handler.Plain := by
    simp only [List.forall_mem_cons, List.not_mem_nil, false_implies, implies_true, and_true]
    exact ⟨⟨plainRoute _ _, plainRoute _ _, plainRoute _ _⟩, ⟨plainRoute _ _, plainRoute _ _⟩,
      plainRoute _ _, plainRoute _ _, plainRoute _ _, plainRoute _ _⟩
  obtain ⟨plain, plainItems, plainPadded⟩ := plain
  have computes : op.effectivePath = .ok "item/7" := rfl
  have offers : router.Offers [user, item, user, item] := by
    simp only [Router.Offers, List.forall_mem_cons, List.not_mem_nil, false_implies, implies_true,
      and_true]
    exact ⟨rfl, rfl, rfl, rfl⟩
  have misses : user.route.Misses "item/7" := by
    refine ⟨.pattern (.compile [.piece (.literal "user/"), .piece (.token "id" false)]) ["id"],
      ?_, ?_⟩
    · rfl
    · cbv
  have padded : Padded "item/7" [item, item] [user, item, user, item] :=
    .missed misses (.kept item (.missed misses (.kept item .nil)))
  have stopped : Stopped (dispatch router.relay op [item, gate] session).1 := by
    have rejects : (dispatch router.relay op [item, gate] session).1 = .ok .rejected := by
      generalize router.relay = relay
      cbv
    rw [rejects]
    exact .rejected
  have goesOn : (dispatch router.relay op [item] session).1 = .ok (.handled "item/7") := by
    decide +kernel
  have quiet : (Outcome.handled "item/7" : Outcome String) ≠ .rejected := by simp
  have stops := dispatch_append router.relay computes
    (show ∀ c ∈ [item, gate] ++ [broken], c.route.handler.Plain from plain) session
  have leadsOn := dispatch_append router.relay computes
    (show ∀ c ∈ [item] ++ [gate, broken], c.route.handler.Plain from plain) session
  have pads := dispatch_append router.relay computes
    (show ∀ c ∈ [item] ++ [item], c.route.handler.Plain from plainItems) session
  obtain ⟨same, -, -, untouched⟩ := stops.1 stopped
  obtain ⟨appended, -, -⟩ := leadsOn.2.1 _ _ quiet (Prod.ext goesOn rfl)
  refine ⟨stopped, same, ?_, ⟨_, Prod.ext goesOn rfl, appended⟩, ?_⟩
  · rw [untouched]
    · rfl
    · simp [item, gate]
  · exact pads.2.2 router _ (router.valid_session []) offers plainPadded padded _

end PathRouting
