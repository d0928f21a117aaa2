import PathRouting.Proofs.Dispatch.Recorded
import PathRouting.Proofs.Dispatch.Service
import PathRouting.Proofs.Fallible

/-!
# Why requests fail

Validation fails for the first source that does not compile.  In a router whose sources all
compile, a dispatch fails only for its template or in a handler, and so does every dispatch of a
run that begins in a valid session.
-/

namespace PathRouting

variable {σ ρ : Type}

/-- An error that a dispatch of the operation may end with where every source compiles. -/
inductive Operation.Blames (op : Operation) : RouteError → Prop where
  | handler (index : Nat) (label : String) (cause : HandlerError) :
      op.Blames (.handler index label cause)
  | template {e : PatternError} (set : op.kind = .set)
      (malformed : Pattern.parse op.path = .error e) : op.Blames (.pattern e)

def Router.Compiles (router : Router σ ρ) : Prop :=
  ∀ route ∈ router.routes, ∃ matcher, Matcher.compile route.source = .ok matcher

theorem Operation.effectivePath_eq_error_iff {op : Operation} {e : PatternError} :
    op.effectivePath = .error e ↔ op.kind = .set ∧ Pattern.parse op.path = .error e := by
  obtain ⟨kind, path, data, args⟩ := op
  cases kind with
  | change => simp [effectivePath]
  | set =>
    simp only [effectivePath, synthesize, Template.parse, bind_pure_eq_error_iff, true_and]

theorem Operation.blames_of_effectivePath {op : Operation} {e : PatternError}
    (fails : op.effectivePath = .error e) : op.Blames (.pattern e) := by
  obtain ⟨set, malformed⟩ := effectivePath_eq_error_iff.mp fails
  exact .template set malformed

/-! ## One dispatch -/

section

variable {router : Router σ ρ} {relay : Relay σ ρ} {op : Operation}
  {candidates : List (Candidate σ ρ)} {session : Session σ}

theorem offer_blames (op : Operation) (path : String) (offers : router.Offers candidates)
    (keeps : router.KeepsValid relay) (compiles : router.Compiles) (index : Nat)
    (before : Outcome ρ) (log : StepLog) (valid : session.Valid router) {e : RouteError}
    (fails : (offer relay op path index before log candidates session).1 = .error e) :
    op.Blames e := by
  fun_induction offer relay op path index before log candidates session with
  | case1 => cases fails
  | case2 index before log c rest session cause reached malformed =>
    have found := offers c List.mem_cons_self
    obtain ⟨refused, -⟩ := valid.of_compile found malformed
    obtain ⟨matcher, compiled⟩ := compiles c.route (Array.mem_of_getElem? found)
    cases refused.symm.trans compiled
  | case3 index before log c rest session matcher reached compiled missed ih =>
    obtain ⟨-, valid⟩ := valid.of_compile (offers c List.mem_cons_self) compiled
    exact ih offers.tail valid fails
  | case4 index before log c rest session matcher reached compiled found matched call cause
      answered failed =>
    obtain rfl := Except.error.inj fails
    exact .handler index c.route.label cause
  | case5 index before log c rest session matcher reached compiled found matched call result
      answered goesOn ih =>
    have inside := offers c List.mem_cons_self
    obtain ⟨-, valid⟩ := valid.of_compile inside compiled
    have validAnswered := keeps c.route (Array.mem_of_getElem? inside) call valid
    rw [goesOn] at validAnswered
    exact ih offers.tail validAnswered fails
  | case6 => cases fails

theorem dispatch_blames (offers : router.Offers candidates) (keeps : router.KeepsValid relay)
    (compiles : router.Compiles) (valid : session.Valid router) {e : RouteError}
    (fails : (dispatch relay op candidates session).1 = .error e) : op.Blames e := by
  unfold dispatch at fails
  cases computes : op.effectivePath with
  | error e' =>
    simp only [computes, Except.error.injEq] at fails
    exact fails ▸ Operation.blames_of_effectivePath computes
  | ok path =>
    have blames {e : RouteError} := offer_blames op path offers keeps compiles 0 .noMatch none valid
      (e := e)
    simp only [computes] at fails
    generalize offer relay op path 0 .noMatch none candidates session = offered at fails blames
    obtain ⟨_ | run, after⟩ := offered
    · exact blames (congrArg Except.error (Except.error.inj fails))
    · cases fails

theorem dispatchTraced_blames (offers : router.Offers candidates) (keeps : router.KeepsValid relay)
    (compiles : router.Compiles) (valid : session.Valid router) {e : RouteError}
    (fails : (dispatchTraced relay op candidates session).1 = .error e) : op.Blames e := by
  have same := (dispatchTraced_eq_dispatch relay op candidates session).1
  rw [fails] at same
  exact dispatch_blames offers keeps compiles valid same.symm

end

/-! ## Requests -/

/-- The operation that a request dispatches, if it dispatches one. -/
def Request.operation? : Request → Option Operation
  | .dispatch op | .picked op _ | .traced op => some op
  | .event given => (Operation.ofEvent given).toOption
  | .validate | .tokens _ | .isCompiled _ => none

/-- The request is for a dispatch, and it is answered by this error. -/
def Request.Fails : (request : Request) → request.Answer ρ → RouteError → Prop
  | .dispatch _, answer, e => answer = .error e
  | .event _, answer, e => answer = .error e
  | .picked _ _, answer, e => answer = .error e
  | .traced _, answer, e => answer = .error e
  | .validate, _, _ => False
  | .tokens _, _, _ => False
  | .isCompiled _, _, _ => False

/-- If an answer reports that a dispatch failed, it blames the template or a handler. -/
def Report.Blames : Report ρ → Prop
  | .answered request answer _ => ∀ op, request.operation? = some op →
      ∀ e, request.Fails answer e → op.Blames e
  | .grown _ => True

section

variable {router : Router σ ρ} {relay : Relay σ ρ} {session : Session σ}

theorem Router.Compiles.serve_blames (compiles : router.Compiles) (keeps : router.KeepsValid relay)
    (valid : session.Valid router) {request : Request} {op : Operation} {e : RouteError}
    (dispatches : request.operation? = some op)
    (fails : request.Fails (router.serve relay request session).1 e) : op.Blames e := by
  have offers := router.offers_candidates
  cases request with
  | dispatch op' =>
    obtain rfl := Option.some.inj dispatches
    exact dispatch_blames offers keeps compiles valid fails
  | picked op' indices =>
    obtain rfl := Option.some.inj dispatches
    exact dispatch_blames (router.offers_pick indices) keeps compiles valid fails
  | traced op' =>
    obtain rfl := Option.some.inj dispatches
    exact dispatchTraced_blames offers keeps compiles valid fails
  | event given =>
    simp only [Request.operation?] at dispatches
    simp only [Request.Fails, Router.serve] at fails
    cases known : Operation.ofEvent given with
    | error e' => simp [known, Except.toOption] at dispatches
    | ok op' =>
      simp only [known, Except.toOption, Option.some.injEq] at dispatches fails
      exact dispatch_blames offers keeps compiles valid (dispatches ▸ fails)
  | validate | tokens | isCompiled => cases dispatches

theorem Service.run_blames {allowed : Request → Prop} (compiles : router.Compiles)
    (within : router.Within allowed) (depth : Nat) {requests : List Request} :
    ∀ {session : Session σ}, session.Valid router → (∀ request ∈ requests, allowed request) →
      ∀ report ∈ (run depth ⟨router, session⟩ (requests.map .ask)).1, report.Blames := by
  induction requests with
  | nil =>
    intro session valid granted report member
    cases member
  | cons request requests ih =>
    intro session valid granted report member
    obtain ⟨granted, others⟩ := List.forall_mem_cons.mp granted
    rcases List.mem_cons.mp member with rfl | later
    · exact fun op dispatches e fails =>
        compiles.serve_blames (within.keepsValid depth) valid dispatches fails
    · exact ih (within.later granted (depth + 1) valid).valid others report later

end

/-! ## Validating -/

theorem compileAll_eq_error_iff {router : Router σ ρ} {candidates : List (Candidate σ ρ)}
    (offers : router.Offers candidates) {session : Session σ} (valid : session.Valid router)
    {e : PatternError} : (compileAll candidates session).1 = .error e ↔
      FirstRefusal (fun c cause => Matcher.compile c.route.source = .error cause) candidates e := by
  induction candidates generalizing session with
  | nil => simp [compileAll]
  | cons c rest ih =>
    obtain ⟨reached, compiles, valid, -⟩ := valid.compile_eq (offers c List.mem_cons_self)
    rw [firstRefusal_cons_iff, compileAll, compiles]
    cases compiled : Matcher.compile c.route.source with
    | error cause => simp
    | ok matcher => simpa using ih offers.tail valid

theorem Router.validate_eq_error_iff {router : Router σ ρ} {session : Session σ}
    (valid : session.Valid router) {e : PatternError} :
    (router.validate session).1 = .error e ↔ FirstRefusal
      (fun route cause => Matcher.compile route.source = .error cause) router.routes.toList e := by
  rw [validate, compileAll_eq_error_iff router.offers_candidates valid, ← map_route_candidates,
    firstRefusal_map_iff]

end PathRouting
