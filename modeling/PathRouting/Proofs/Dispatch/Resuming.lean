import PathRouting.Proofs.Dispatch.Fold
import PathRouting.Proofs.Dispatch.Recorded

/-!
# Dispatches one behind the other

A dispatch over two lists of candidates goes on with the second list only if the first does not
end it, and then as a dispatch over the second list alone does, at later positions.  How a
dispatch over candidates calls their handlers is watched as it is for the requests of a router.
-/

namespace PathRouting

variable {σ ρ : Type}

/-- The handler does the same on related calls. -/
def Handler.Respects (C : Call → Call → Prop) (handler : Handler σ ρ) : Prop :=
  ∀ (relay : Relay σ ρ) ⦃call call' : Call⦄, C call call' → handler relay call = handler relay call'

/-! ## One list behind another -/

theorem offer_append (relay : Relay σ ρ) (op : Operation) (path : String)
    (earlier later : List (Candidate σ ρ)) (index : Nat) (before : Outcome ρ) (log : StepLog)
    (session : Session σ) (undecided : before ≠ .rejected) :
    offer relay op path index before log (earlier ++ later) session =
      match offer relay op path index before log earlier session with
      | (.error e, after) => (.error e, after)
      | (.ok ⟨.rejected, skipped, log⟩, after) =>
          (.ok ⟨.rejected, skipped + later.length, log⟩, after)
      | (.ok ⟨outcome, _, log⟩, after) =>
          offer relay op path (index + earlier.length) outcome log later after := by
  fun_induction offer relay op path index before log earlier session with
  | case1 index before log session =>
    cases before with
    | rejected => exact absurd rfl undecided
    | noMatch | handled => rfl
  | case2 index before log c rest session e reached malformed =>
    simp only [List.cons_append, offer, malformed]
  | case3 index before log c rest session matcher reached compiled missed ih =>
    have position : index + 1 + rest.length = index + (rest.length + 1) := by omega
    simp only [List.cons_append, offer, compiled, missed, List.length_cons]
    rw [ih undecided, position]
  | case4 index before log c rest session matcher reached compiled found matched call cause
      answered failed =>
    simp only [call] at failed
    simp only [List.cons_append, offer, compiled, matched, failed]
  | case5 index before log c rest session matcher reached compiled found matched call result
      answered goesOn ih =>
    have position : index + 1 + rest.length = index + (rest.length + 1) := by omega
    simp only [call] at goesOn
    simp only [List.cons_append, offer, compiled, matched, goesOn, List.length_cons]
    rw [ih (by simp), position]
  | case6 index before log c rest session matcher reached compiled found matched call answered
      refuses =>
    simp only [call] at refuses
    simp only [List.cons_append, offer, compiled, matched, refuses, List.length_append]

/-- The result ends a dispatch, whatever routes come behind. -/
inductive Stopped : Except RouteError (Outcome ρ) → Prop where
  | failed (e : RouteError) : Stopped (.error e)
  | rejected : Stopped (.ok .rejected)

def Run.skipMore (routes : Nat) (run : Run ρ) : Run ρ :=
  { run with skipped := run.skipped + routes }

section

variable {relay : Relay σ ρ} {op : Operation} {path : String}
  {earlier candidates : List (Candidate σ ρ)} {index : Nat} {before outcome : Outcome ρ}
  {log : StepLog} {session : Session σ}

theorem offer_append_of_stopped (later : List (Candidate σ ρ))
    (stopped : Stopped ((offer relay op path 0 .noMatch log earlier session).1.map (·.outcome))) :
    offer relay op path 0 .noMatch log (earlier ++ later) session =
      ((offer relay op path 0 .noMatch log earlier session).1.map (·.skipMore later.length),
        (offer relay op path 0 .noMatch log earlier session).2) := by
  rw [offer_append relay op path earlier later 0 .noMatch log session nofun]
  generalize offer relay op path 0 .noMatch log earlier session = offered at stopped ⊢
  obtain ⟨e | ⟨outcome, skipped, log⟩, after⟩ := offered
  · rfl
  · simp only [Except.map] at stopped
    cases stopped
    rfl

theorem offer_append_of_open (later : List (Candidate σ ρ)) (quiet : outcome ≠ .rejected)
    (goesOn : (offer relay op path 0 .noMatch log earlier session).1.map (·.outcome) =
      .ok outcome) :
    ∃ run, (offer relay op path 0 .noMatch log earlier session).1 = .ok run ∧
      run.outcome = outcome ∧
      offer relay op path 0 .noMatch log (earlier ++ later) session =
        offer relay op path earlier.length outcome run.log later
          (offer relay op path 0 .noMatch log earlier session).2 := by
  rw [offer_append relay op path earlier later 0 .noMatch log session nofun,
    Nat.zero_add]
  generalize offer relay op path 0 .noMatch log earlier session = offered at goesOn ⊢
  obtain ⟨e | ⟨outcome', skipped, log⟩, after⟩ := offered
  · cases goesOn
  · obtain rfl : outcome' = outcome := Except.ok.inj goesOn
    refine ⟨_, rfl, rfl, ?_⟩
    cases outcome' with
    | rejected => exact absurd rfl quiet
    | noMatch | handled => rfl

theorem offer_log_isSome {after : Session σ} {run : Run ρ}
    (ends : offer relay op path index before log candidates session = (.ok run, after)) :
    run.log.isSome = log.isSome := by
  have noted (log : StepLog) (index : Nat) (route : Route σ ρ) (flow : Option StepFlow) :
      (log.note index route flow).isSome = log.isSome := Option.isSome_map
  fun_induction offer relay op path index before log candidates session with
  | case1 =>
    cases ends
    rfl
  | case2 => cases ends
  | case3 index before log c rest session matcher reached compiled missed ih =>
    exact (ih ends).trans (noted log index c.route none)
  | case4 => cases ends
  | case5 index before log c rest session matcher reached compiled found matched call result
      answered goesOn ih =>
    exact (ih ends).trans (noted log index c.route (some .continued))
  | case6 index before log c rest session matcher reached compiled found matched call answered =>
    cases ends
    exact noted log index c.route (some .rejected)

end

/-! ## Watched candidates -/

/-- Answers the requests of watched handlers; what they note is left as it is. -/
def Relay.watched (relay : Relay σ ρ) : Relay (σ × List (Sighting σ)) ρ :=
  fun request session =>
    ((relay request session.unwatched).1,
      ⟨(relay request session.unwatched).2.cells,
        (relay request session.unwatched).2.env, session.env.2⟩)

def Candidate.watched (relay : Relay σ ρ) (c : Candidate σ ρ) :
    Candidate (σ × List (Sighting σ)) ρ :=
  ⟨c.cell, c.route.watched relay⟩

/-- The calls that a dispatch over candidates makes, in order. -/
def sighted (relay : Relay σ ρ) (op : Operation) (candidates : List (Candidate σ ρ))
    (session : Session σ) : List (Sighting σ) :=
  (dispatch relay.watched op (candidates.map (·.watched relay)) session.watched).2.env.2

section

variable {relay : Relay σ ρ} {op : Operation} {path : String} {candidates : List (Candidate σ ρ)}

/-- A watched handler answers and ends as it does unwatched, and its call is noted. -/
theorem Candidate.of_watched_handler {c : Candidate σ ρ} {other : Relay (σ × List (Sighting σ)) ρ}
    {call : Call} {session after : Session (σ × List (Sighting σ))}
    {answer : Except HandlerError (Flow ρ)}
    (handled : (c.watched relay).route.handler other call session = (answer, after)) :
    (c.route.handler relay call session.unwatched).1 = answer ∧
      (c.route.handler relay call session.unwatched).2 = after.unwatched ∧
      after.env.2 = session.env.2 ++ [⟨call, session.unwatched⟩] := by
  obtain ⟨rfl, rfl⟩ := Prod.mk.inj handled
  exact ⟨rfl, rfl, rfl⟩

theorem Candidate.watched_paired (relay : Relay σ ρ) (watch : Relay (σ × List (Sighting σ)) ρ)
    (c : Candidate σ ρ) :
    Candidate.Paired (fun s t => s.unwatched = t) watch relay (c.watched relay) c where
  cell := rfl
  name := rfl
  source := rfl
  compile := by
    rintro s _ rfl
    exact s.compile_unwatched c.cell c.route.source
  handler := by
    rintro call s _ rfl
    exact ⟨rfl, rfl⟩

theorem offer_watched (relay : Relay σ ρ) (op : Operation) (path : String)
    (candidates : List (Candidate σ ρ)) (index : Nat) (before : Outcome ρ) (log : StepLog) :
    InStep (fun s t => s.unwatched = t)
      (offer relay.watched op path index before log (candidates.map (·.watched relay)))
      (offer relay op path index before log candidates) := by
  apply offer_inStep
  rw [List.forall₂_map_left_iff, List.forall₂_same]
  exact fun c _ => c.watched_paired relay relay.watched

theorem sighted_eq_offer (computes : op.effectivePath = .ok path) (session : Session σ) :
    sighted relay op candidates session =
      (offer relay.watched op path 0 .noMatch none (candidates.map (·.watched relay))
        session.watched).2.env.2 := by
  rw [sighted, dispatch_eq_offer computes]

theorem dispatch_of_no_path {e : PatternError} (fails : op.effectivePath = .error e)
    (session : Session σ) :
    dispatch relay op candidates session = (.error (.pattern e), session) ∧
      sighted relay op candidates session = [] ∧
      dispatchTraced relay op candidates session = (.error (.pattern e), session) := by
  simp only [sighted, dispatch, dispatchTraced, fails]
  exact ⟨trivial, rfl, trivial⟩

theorem sighted_eq_of_relay (other : Relay (σ × List (Sighting σ)) ρ) (op : Operation)
    (session : Session σ) :
    (dispatch other op (candidates.map (·.watched relay)) session.watched).2.env.2 =
      sighted relay op candidates session := by
  have pairs : List.Forall₂ (Candidate.Paired Eq other relay.watched)
      (candidates.map (·.watched relay)) (candidates.map (·.watched relay)) := by
    rw [List.forall₂_same]
    intro c member
    obtain ⟨c, -, rfl⟩ := List.mem_map.mp member
    refine ⟨rfl, rfl, rfl, ?_, ?_⟩
    · rintro s _ rfl
      exact ⟨rfl, rfl⟩
    · rintro call s _ rfl
      exact ⟨rfl, rfl⟩
  exact congrArg (·.env.2) (dispatch_inStep pairs op rfl).2

theorem Router.sightings_dispatch (router : Router σ ρ) (relay : Relay σ ρ) (op : Operation)
    (session : Session σ) :
    router.sightings relay (.dispatch op) session =
      sighted relay op router.candidates session := by
  have candidates : (router.watched relay).candidates =
      router.candidates.map (·.watched relay) := by
    simp only [Router.candidates, Router.watched, Array.toList_map, List.zipIdx_map, List.map_map]
    rfl
  rw [← sighted_eq_of_relay (router.watched relay).decline, ← candidates]
  rfl

theorem Router.sightings_picked (router : Router σ ρ) (relay : Relay σ ρ) (op : Operation)
    (indices : List Nat) (session : Session σ) :
    router.sightings relay (.picked op indices) session =
      sighted relay op (router.pick indices) session := by
  have candidates : (router.watched relay).pick indices =
      (router.pick indices).map (·.watched relay) := by
    have candidate? (index : Nat) : (router.watched relay).candidate? index =
        (router.candidate? index).map (·.watched relay) := by
      simp only [Router.candidate?, Router.watched, Array.getElem?_map, Option.map_map]
      rfl
    simp only [Router.pick, List.map_filterMap, ← candidate?]
  rw [← sighted_eq_of_relay (router.watched relay).decline, ← candidates]
  rfl

/-! ## Corresponding sightings -/

/-- One session, watched twice: what was seen the second time begins with `first`, and corresponds
from there on to what was seen the first time. -/
structure Session.SeenAgain (S : Sighting σ → Sighting σ → Prop) (first : List (Sighting σ))
    (s t : Session (σ × List (Sighting σ))) : Prop where
  same : s.unwatched = t.unwatched
  sightings : ∃ seen, t.env.2 = first ++ seen ∧ List.Forall₂ S s.env.2 seen

theorem Candidate.watched_pairedOn {C : Call → Call → Prop} {S : Sighting σ → Sighting σ → Prop}
    (seen : ∀ ⦃call call'⦄ session, C call call' → S ⟨call, session⟩ ⟨call', session⟩)
    {c : Candidate σ ρ} (respects : c.route.handler.Respects C) (first : List (Sighting σ)) :
    Candidate.PairedOn C (Session.SeenAgain S first) relay.watched relay.watched (c.watched relay)
      (c.watched relay) where
  cell := rfl
  name := rfl
  source := rfl
  compile := by
    rintro s t ⟨same, sightings⟩
    obtain ⟨left, left'⟩ := s.compile_unwatched c.cell c.route.source
    obtain ⟨right, right'⟩ := t.compile_unwatched c.cell c.route.source
    refine ⟨?_, ?_, ?_⟩
    · exact left.trans (same ▸ right.symm)
    · exact left'.trans (same ▸ right'.symm)
    · simpa only [Session.env_compile] using sightings
  handler := by
    rintro call call' related s t ⟨same, others, noted, sightings⟩
    have answers := congrFun (respects relay related) s.unwatched
    simp only [Candidate.watched, Route.watched, Handler.watched, ← same, ← answers]
    refine ⟨trivial, rfl, others ++ [⟨call', t.unwatched⟩], ?_, ?_⟩
    · rw [noted, List.append_assoc, same]
    · exact List.rel_append sightings (.cons (same ▸ seen s.unwatched related) .nil)

theorem forall₂_watched_pairedOn (relay : Relay σ ρ) {C : Call → Call → Prop}
    {S : Sighting σ → Sighting σ → Prop}
    (seen : ∀ ⦃call call'⦄ session, C call call' → S ⟨call, session⟩ ⟨call', session⟩)
    (respects : ∀ c ∈ candidates, c.route.handler.Respects C) (first : List (Sighting σ)) :
    List.Forall₂ (Candidate.PairedOn C (Session.SeenAgain S first) relay.watched relay.watched)
      (candidates.map (·.watched relay)) (candidates.map (·.watched relay)) := by
  rw [List.forall₂_same]
  intro c member
  obtain ⟨c, inside, rfl⟩ := List.mem_map.mp member
  exact Candidate.watched_pairedOn seen (respects c inside) first

theorem forall₂_pairedOn (relay : Relay σ ρ) {C : Call → Call → Prop}
    (respects : ∀ c ∈ candidates, c.route.handler.Respects C) :
    List.Forall₂ (Candidate.PairedOn C Eq relay relay) candidates candidates := by
  rw [List.forall₂_same]
  intro c member
  refine ⟨rfl, rfl, rfl, ?_, ?_⟩
  · rintro s _ rfl
    exact ⟨rfl, rfl⟩
  · rintro call call' related s _ rfl
    rw [respects c member relay related]
    exact ⟨rfl, rfl⟩

end

end PathRouting
