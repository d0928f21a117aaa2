import Mathlib.Data.List.Forall2
import PathRouting.Proofs.Dispatch.Validity

/-!
# Runs in step

Two computations run in step for a relation on sessions if, started in related sessions, they
answer the same and end in related sessions.  A router runs in step with another, over any request,
as soon as compiling their routes and calling their handlers do.  The calls need not be the same:
they may be made at later positions, or by an operation of another kind, if the handlers do not
mind.  What a dispatch keeps, what it cannot see and what watching it changes are all said by such a
relation.
-/

namespace PathRouting

variable {σ τ ρ α : Type}

def InStep (R : Session σ → Session τ → Prop) (f : Session σ → α × Session σ)
    (g : Session τ → α × Session τ) : Prop :=
  ∀ ⦃s t⦄, R s t → (f s).1 = (g t).1 ∧ R (f s).2 (g t).2

theorem InStep.split {R : Session σ → Session τ → Prop} {f : Session σ → α × Session σ}
    {g : Session τ → α × Session τ} (inStep : InStep R f g) {s : Session σ} {t : Session τ}
    (related : R s t) :
    ∃ answer s' t', f s = (answer, s') ∧ g t = (answer, t') ∧ R s' t' := by
  obtain ⟨same, after⟩ := inStep related
  exact ⟨(f s).1, (f s).2, (g t).2, rfl, Prod.ext same.symm rfl, after⟩

theorem InStep.unchanged (R : Session σ → Session τ → Prop) (answer : α) :
    InStep R (fun s => (answer, s)) (fun t => (answer, t)) :=
  fun _ _ related => ⟨rfl, related⟩

/-! ## Later positions -/

def Call.later (shift : Nat) (call : Call) : Call :=
  { call with index := call.index + shift }

def Step.later (shift : Nat) (step : Step) : Step :=
  { step with index := step.index + shift }

/-- Only the failure of a handler tells a position. -/
def RouteError.later (shift : Nat) : RouteError → RouteError
  | .handler index label cause => .handler (index + shift) label cause
  | e => e

/-- What stands when an outcome comes behind another one. -/
def Outcome.after : Outcome ρ → Outcome ρ → Outcome ρ
  | .noMatch, before => before
  | .handled result, _ => .handled result
  | .rejected, _ => .rejected

def StepLog.after (earlier : Array Step) (shift : Nat) (log : StepLog) : StepLog :=
  log.map fun steps => earlier ++ steps.map (Step.later shift)

/-- The end of a dispatch that went on where `shift` routes had led to the outcome `before` and to
the `earlier` steps. -/
def Run.after (before : Outcome ρ) (earlier : Array Step) (shift : Nat) (run : Run ρ) : Run ρ :=
  ⟨run.outcome.after before, run.skipped, run.log.after earlier shift⟩

@[simp] theorem RouteError.later_zero (e : RouteError) : e.later 0 = e := by
  cases e <;> rfl

@[simp] theorem Outcome.after_noMatch (outcome : Outcome ρ) : outcome.after .noMatch = outcome := by
  cases outcome <;> rfl

@[simp] theorem StepLog.after_nothing (log : StepLog) : log.after #[] 0 = log := by
  cases log with
  | none => rfl
  | some steps =>
    have same : Step.later 0 = id := rfl
    simp [StepLog.after, same]

@[simp] theorem Run.after_nothing (run : Run ρ) : run.after .noMatch #[] 0 = run := by
  simp [Run.after]

theorem StepLog.note_after (earlier : Array Step) (shift : Nat) (log : StepLog) (index : Nat)
    (route : Route σ ρ) (flow : Option StepFlow) :
    StepLog.note (log.after earlier shift) (index + shift) route flow =
      (log.note index route flow).after earlier shift := by
  cases log with
  | none => rfl
  | some steps => simp [StepLog.note, StepLog.after, Step.later]

/-! ## Related calls -/

/-- Two candidates for one cell, told apart by nothing but their handlers, which run in step on
related calls. -/
structure Candidate.PairedOn (C : Call → Call → Prop) (R : Session σ → Session τ → Prop)
    (relay : Relay σ ρ) (relay' : Relay τ ρ) (c : Candidate σ ρ) (d : Candidate τ ρ) : Prop where
  cell : c.cell = d.cell
  name : c.route.name = d.route.name
  source : c.route.source = d.route.source
  compile : InStep R (·.compile c.cell c.route.source) (·.compile d.cell d.route.source)
  handler {call call' : Call} : C call call' →
    InStep R (c.route.handler relay call) (d.route.handler relay' call')

/-- Two operations that lead to related calls are in step over paired candidates, wherever the
second begins: there its positions are later by `shift`, and what came before stands in front of
its outcome and of its steps. -/
theorem offer_resumed {C : Call → Call → Prop} {R : Session σ → Session τ → Prop}
    {relay : Relay σ ρ} {relay' : Relay τ ρ} {op op' : Operation} {path : String}
    {candidates : List (Candidate σ ρ)} {others : List (Candidate τ ρ)} (shift : Nat)
    (calls : ∀ index name found, C ⟨index, name, op.kind, path, .ofMatch op.kind found op.args⟩
      ⟨index + shift, name, op'.kind, path, .ofMatch op'.kind found op'.args⟩)
    (before : Outcome ρ) (earlier : Array Step)
    (pairs : List.Forall₂ (Candidate.PairedOn C R relay relay') candidates others) :
    ∀ (index : Nat) (outcome : Outcome ρ) (log : StepLog),
      InStep R
        (fun s => (((offer relay op path index outcome log candidates s).1.map
            (·.after before earlier shift)).mapError (·.later shift),
          (offer relay op path index outcome log candidates s).2))
        (offer relay' op' path (index + shift) (outcome.after before) (log.after earlier shift)
          others) := by
  -- The position, the outcome so far and the log are those before the rest, so they vary.
  induction pairs with
  | nil => exact fun _ _ _ s t related => ⟨rfl, related⟩
  | @cons c d rest rest' pair others ih =>
    intro index outcome log s t related
    have next : index + shift + 1 = index + 1 + shift := by omega
    have note (flow : Option StepFlow) :
        StepLog.note (log.after earlier shift) (index + shift) d.route flow =
          (log.note index c.route flow).after earlier shift := by
      rw [StepLog.note_after]
      simp only [StepLog.note, pair.name, pair.source]
    obtain ⟨compiled, s, t, left, right, related⟩ := pair.compile.split related
    simp only [offer, left, right]
    cases compiled with
    | error e => exact ⟨rfl, related⟩
    | ok matcher =>
      dsimp only
      cases matcher.matchPath path with
      | none =>
        simp only [note, next]
        exact ih _ _ _ related
      | some found =>
        have called := calls index d.route.name found
        have label : c.route.label = d.route.label := by
          simp only [Route.label, pair.name, pair.source]
        obtain ⟨answer, s, t, left, right, related⟩ := (pair.handler called).split related
        simp only [pair.name, left, right, note, next]
        cases answer with
        | error cause =>
          rw [← label]
          exact ⟨rfl, related⟩
        | ok flow =>
          cases flow with
          | proceed result => exact ih _ _ _ related
          | reject =>
            have length := List.Forall₂.length_eq others
            rw [← length]
            exact ⟨rfl, related⟩

theorem offer_inStep_of_calls {C : Call → Call → Prop} {R : Session σ → Session τ → Prop}
    {relay : Relay σ ρ} {relay' : Relay τ ρ} {op op' : Operation} {path : String}
    {candidates : List (Candidate σ ρ)} {others : List (Candidate τ ρ)}
    (calls : ∀ index name found, C ⟨index, name, op.kind, path, .ofMatch op.kind found op.args⟩
      ⟨index, name, op'.kind, path, .ofMatch op'.kind found op'.args⟩)
    (pairs : List.Forall₂ (Candidate.PairedOn C R relay relay') candidates others) (index : Nat)
    (before : Outcome ρ) (log : StepLog) :
    InStep R (offer relay op path index before log candidates)
      (offer relay' op' path index before log others) := by
  intro s t related
  have resumed := offer_resumed 0 calls .noMatch #[] pairs index before log related
  have unchanged (result : Except RouteError (Run ρ)) :
      (result.map (·.after .noMatch #[] 0)).mapError (·.later 0) = result := by
    cases result <;> simp [Except.map, Except.mapError]
  simpa only [unchanged, Outcome.after_noMatch, StepLog.after_nothing, Nat.add_zero] using resumed

/-! ## Candidates -/

/-- Two candidates for one cell, told apart by nothing but their handlers, which run in step. -/
structure Candidate.Paired (R : Session σ → Session τ → Prop) (relay : Relay σ ρ)
    (relay' : Relay τ ρ) (c : Candidate σ ρ) (d : Candidate τ ρ) : Prop where
  cell : c.cell = d.cell
  name : c.route.name = d.route.name
  source : c.route.source = d.route.source
  compile : InStep R (·.compile c.cell c.route.source) (·.compile d.cell d.route.source)
  handler (call : Call) :
    InStep R (c.route.handler relay call) (d.route.handler relay' call)

section

variable {R : Session σ → Session τ → Prop} {relay : Relay σ ρ} {relay' : Relay τ ρ}
  {candidates : List (Candidate σ ρ)} {others : List (Candidate τ ρ)}

theorem offer_inStep (op : Operation) (path : String)
    (pairs : List.Forall₂ (Candidate.Paired R relay relay') candidates others) (index : Nat)
    (before : Outcome ρ) (log : StepLog) :
    InStep R (offer relay op path index before log candidates)
      (offer relay' op path index before log others) := by
  have pairs : List.Forall₂ (Candidate.PairedOn Eq R relay relay') candidates others :=
    pairs.imp fun c d pair =>
      ⟨pair.cell, pair.name, pair.source, pair.compile, fun same => same ▸ pair.handler _⟩
  exact offer_inStep_of_calls (fun _ _ _ => rfl) pairs index before log

theorem dispatch_inStep (pairs : List.Forall₂ (Candidate.Paired R relay relay') candidates others)
    (op : Operation) : InStep R (dispatch relay op candidates) (dispatch relay' op others) := by
  intro s t related
  simp only [dispatch]
  cases op.effectivePath with
  | error e => exact ⟨rfl, related⟩
  | ok path =>
    obtain ⟨answer, s, t, left, right, related⟩ :=
      (offer_inStep op path pairs 0 .noMatch none).split related
    simp only [left, right]
    cases answer <;> exact ⟨rfl, related⟩

theorem dispatchTraced_inStep
    (pairs : List.Forall₂ (Candidate.Paired R relay relay') candidates others) (op : Operation) :
    InStep R (dispatchTraced relay op candidates) (dispatchTraced relay' op others) := by
  intro s t related
  simp only [dispatchTraced]
  cases op.effectivePath with
  | error e => exact ⟨rfl, related⟩
  | ok path =>
    obtain ⟨answer, s, t, left, right, related⟩ :=
      (offer_inStep op path pairs 0 .noMatch (some #[])).split related
    simp only [left, right]
    cases answer <;> exact ⟨rfl, related⟩

theorem compileAll_inStep
    (pairs : List.Forall₂ (Candidate.Paired R relay relay') candidates others) :
    InStep R (compileAll candidates) (compileAll others) := by
  induction pairs with
  | nil => exact .unchanged R _
  | cons pair _ ih =>
    intro s t related
    obtain ⟨compiled, s, t, left, right, related⟩ := pair.compile.split related
    simp only [compileAll, left, right]
    cases compiled with
    | error e => exact ⟨rfl, related⟩
    | ok matcher => exact ih related

end

/-! ## Routers -/

/-- The routers have routes in step at the same positions. -/
structure Router.Paired (R : Session σ → Session τ → Prop) (relay : Relay σ ρ)
    (relay' : Relay τ ρ) (router : Router σ ρ) (other : Router τ ρ) : Prop where
  size : router.routes.size = other.routes.size
  candidate {cell : Nat} {route : Route σ ρ} {route' : Route τ ρ} :
    router.routes[cell]? = some route → other.routes[cell]? = some route' →
      Candidate.Paired R relay relay' ⟨cell, route⟩ ⟨cell, route'⟩

/-- Whether the answer to a request shows which cells are filled. -/
def Request.Looks : Request → Prop
  | .isCompiled _ => True
  | _ => False

namespace Router.Paired

variable {R : Session σ → Session τ → Prop} {relay : Relay σ ρ} {relay' : Relay τ ρ}
  {router : Router σ ρ} {other : Router τ ρ}

theorem candidates (pairs : router.Paired R relay relay' other) :
    List.Forall₂ (Candidate.Paired R relay relay') router.candidates other.candidates := by
  rw [List.forall₂_iff_get]
  refine ⟨by simpa using pairs.size, fun i inside inside' => ?_⟩
  simp only [length_candidates] at inside inside'
  simpa [Router.candidates] using
    pairs.candidate (Array.getElem?_eq_getElem inside) (Array.getElem?_eq_getElem inside')

theorem candidate? (pairs : router.Paired R relay relay' other) (index : Nat) :
    (router.candidate? index = none ∧ other.candidate? index = none) ∨
      ∃ c d, router.candidate? index = some c ∧ other.candidate? index = some d ∧
        Candidate.Paired R relay relay' c d := by
  by_cases inside : index < router.routes.size
  · have inside' : index < other.routes.size := pairs.size ▸ inside
    have found := Array.getElem?_eq_getElem inside
    have found' := Array.getElem?_eq_getElem inside'
    exact .inr ⟨_, _, congrArg (Option.map _) found, congrArg (Option.map _) found',
      pairs.candidate found found'⟩
  · have outside := Nat.le_of_not_lt inside
    have missing := Array.getElem?_eq_none outside
    have missing' := Array.getElem?_eq_none (pairs.size ▸ outside)
    exact .inl ⟨congrArg (Option.map _) missing, congrArg (Option.map _) missing'⟩

theorem pick (pairs : router.Paired R relay relay' other) (indices : List Nat) :
    List.Forall₂ (Candidate.Paired R relay relay') (router.pick indices) (other.pick indices) := by
  simp only [Router.pick]
  induction indices with
  | nil => exact .nil
  | cons index indices ih =>
    rcases pairs.candidate? index with ⟨missing, missing'⟩ | ⟨c, d, found, found', pair⟩
    · simpa only [List.filterMap_cons, missing, missing'] using ih
    · simpa only [List.filterMap_cons, found, found'] using .cons pair ih

theorem tokens? (pairs : router.Paired R relay relay' other) (index : Nat) :
    InStep R (router.tokens? index) (other.tokens? index) := by
  intro s t related
  rcases pairs.candidate? index with ⟨missing, missing'⟩ | ⟨c, d, found, found', pair⟩
  · simp only [Router.tokens?, missing, missing']
    exact ⟨trivial, related⟩
  · obtain ⟨compiled, s, t, left, right, related⟩ := pair.compile.split related
    simp only [Router.tokens?, found, found', left, right]
    exact ⟨trivial, related⟩

theorem isCompiled? (pairs : router.Paired R relay relay' other) (index : Nat) {s : Session σ}
    {t : Session τ} (cells : s.cells = t.cells) :
    router.isCompiled? index s = other.isCompiled? index t := by
  rcases pairs.candidate? index with ⟨missing, missing'⟩ | ⟨c, d, found, found', pair⟩
  · simp only [Router.isCompiled?, missing, missing', Option.map_none]
  · simp only [Router.isCompiled?, found, found', Option.map_some, pair.cell, Session.cell?, cells]

theorem serve (pairs : router.Paired R relay relay' other) {request : Request}
    (looks : request.Looks → ∀ ⦃s t⦄, R s t → s.cells = t.cells) :
    InStep R (router.serve relay request) (other.serve relay' request) := by
  cases request with
  | dispatch op => exact dispatch_inStep pairs.candidates op
  | picked op indices => exact dispatch_inStep (pairs.pick indices) op
  | traced op => exact dispatchTraced_inStep pairs.candidates op
  | validate => exact compileAll_inStep pairs.candidates
  | tokens index => exact pairs.tokens? index
  | event event =>
    intro s t related
    simp only [Router.serve]
    cases Operation.ofEvent event with
    | error e => exact ⟨rfl, related⟩
    | ok op => exact dispatch_inStep pairs.candidates op related
  | isCompiled index =>
    exact fun s t related => ⟨pairs.isCompiled? index (looks trivial related), related⟩

theorem decline (pairs : router.Paired R relay relay' other) {request : Request}
    (looks : request.Looks → ∀ ⦃s t⦄, R s t → s.cells = t.cells) :
    InStep R (router.decline request) (other.decline request) := by
  cases request with
  | dispatch | event | picked | traced => exact .unchanged R _
  | validate => exact compileAll_inStep pairs.candidates
  | tokens index => exact pairs.tokens? index
  | isCompiled index =>
    exact fun s t related => ⟨pairs.isCompiled? index (looks trivial related), related⟩

end Router.Paired

end PathRouting
