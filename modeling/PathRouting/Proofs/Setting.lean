import PathRouting.Handlers.Journal
import PathRouting.Proofs.Dispatch.Resuming

/-!
# Setting is writing and changing

A set writes a path from its template and then does what a change to that path does.  The two
differ in the kind that their calls and their trace tell and in the shape of the arguments, so
handlers that look at neither cannot tell a set from a change.
-/

namespace PathRouting

variable {σ ρ : Type}

/-- Two calls that differ at most in their kind and in the shape of their arguments. -/
structure Call.SameButKind (call other : Call) : Prop where
  index : call.index = other.index
  route : call.route = other.route
  path : call.path = other.path
  positional : call.args.positional = other.args.positional
  extra : call.args.extra = other.args.extra

/-- The handler looks neither at the kind of a call nor at the match behind its arguments. -/
def Handler.KindBlind (handler : Handler σ ρ) : Prop :=
  handler.Respects Call.SameButKind

/-- The same call in the same session, made by an operation of another kind. -/
structure Sighting.SameButKind (seen other : Sighting σ) : Prop where
  call : seen.call.SameButKind other.call
  session : seen.session = other.session

/-! ## Handlers that are blind to the kind -/

theorem Reply.handler_kindBlind (reply : Reply) : (reply.handler : Handler σ String).KindBlind := by
  intro relay call call' same
  have answers : reply.answer call = reply.answer call' := by
    cases reply with
    | echo label => simp only [answer, same.positional]
    | constant | fail | reject => rfl
  funext session
  simp only [handler, answers]

theorem Handler.KindBlind.recorded {handler : Handler Journal ρ} (blind : handler.KindBlind)
    (recording : Nat) : (handler.recorded recording).KindBlind := by
  intro relay call call' same
  have note : call.note = call'.note := by
    simp only [Call.note, same.index, same.path]
  funext session
  simp only [Handler.recorded, note, blind relay same]

/-! ## Two operations over one path -/

section

variable {relay : Relay σ ρ} {op op' : Operation} {path : String}
  {candidates : List (Candidate σ ρ)}

theorem Call.sameButKind_of_args (path : String) (args : op.args = op'.args) (index : Nat)
    (name : Option String) (found : Match) :
    SameButKind ⟨index, name, op.kind, path, .ofMatch op.kind found op.args⟩
      ⟨index, name, op'.kind, path, .ofMatch op'.kind found op'.args⟩ where
  index := rfl
  route := rfl
  path := rfl
  positional := by simp [args]
  extra := by simp [args]

/-- On one path the kind of an operation shows neither in the run nor in the session after it. -/
theorem offer_of_kind (blind : ∀ c ∈ candidates, c.route.handler.KindBlind)
    (args : op.args = op'.args) (log : StepLog) (session : Session σ) :
    offer relay op path 0 .noMatch log candidates session =
      offer relay op' path 0 .noMatch log candidates session := by
  have inStep := offer_inStep_of_calls (Call.sameButKind_of_args path args)
    (forall₂_pairedOn relay blind) 0 .noMatch log
  obtain ⟨result, after⟩ := inStep (Eq.refl session)
  exact Prod.ext result after

theorem sighted_of_kind (blind : ∀ c ∈ candidates, c.route.handler.KindBlind)
    (args : op.args = op'.args) (computes : op.effectivePath = .ok path)
    (computes' : op'.effectivePath = .ok path) (session : Session σ) :
    List.Forall₂ Sighting.SameButKind (sighted relay op candidates session)
      (sighted relay op' candidates session) := by
  rw [sighted_eq_offer computes, sighted_eq_offer computes']
  have inStep := offer_inStep_of_calls (Call.sameButKind_of_args path args)
    (forall₂_watched_pairedOn relay
      (fun _ _ _ same => Sighting.SameButKind.mk same rfl) blind []) 0 .noMatch none
  have start : Session.SeenAgain Sighting.SameButKind [] session.watched session.watched :=
    ⟨rfl, [], rfl, .nil⟩
  obtain ⟨seen, noted, sightings⟩ := (inStep start).2.sightings
  rw [noted]
  exact sightings

theorem dispatch_of_kind (blind : ∀ c ∈ candidates, c.route.handler.KindBlind)
    (args : op.args = op'.args) (computes : op.effectivePath = .ok path)
    (computes' : op'.effectivePath = .ok path) (session : Session σ) :
    dispatch relay op candidates session = dispatch relay op' candidates session := by
  rw [dispatch_eq_offer computes, dispatch_eq_offer computes',
    offer_of_kind blind args none session]

theorem dispatchTraced_of_kind (blind : ∀ c ∈ candidates, c.route.handler.KindBlind)
    (args : op.args = op'.args) (computes : op.effectivePath = .ok path)
    (computes' : op'.effectivePath = .ok path) (session : Session σ) :
    dispatchTraced relay op candidates session =
      ((dispatchTraced relay op' candidates session).1.map ({ · with kind := op.kind }),
        (dispatchTraced relay op' candidates session).2) := by
  rw [dispatchTraced_eq_offer computes, dispatchTraced_eq_offer computes',
    offer_of_kind blind args (some #[]) session]
  generalize offer relay op' path 0 .noMatch (some #[]) candidates session = offered
  obtain ⟨_ | run, after⟩ := offered <;> rfl

end

/-- To handlers that are blind to the kind of a call, a set is a change to the path that its
template gives: with the same answer and the same session at the end, the same calls in the same
sessions, and the same trace but for the kind.  A set whose template is malformed fails before
anything is compiled or called. -/
theorem set_dispatches_as_change {relay : Relay σ ρ} {candidates : List (Candidate σ ρ)}
    (blind : ∀ c ∈ candidates, c.route.handler.KindBlind) (session : Session σ)
    (template : String) (bag : Bag) (args : List Value) :
    let set := (Operation.set template bag).withArgs args
    (∀ path, synthesize template bag = .ok path →
      let change := (Operation.change path).withArgs args
      dispatch relay set candidates session = dispatch relay change candidates session ∧
      List.Forall₂ Sighting.SameButKind (sighted relay set candidates session)
        (sighted relay change candidates session) ∧
      dispatchTraced relay set candidates session =
        ((dispatchTraced relay change candidates session).1.map ({ · with kind := .set }),
          (dispatchTraced relay change candidates session).2)) ∧
    ∀ e, synthesize template bag = .error e →
      dispatch relay set candidates session = (.error (.pattern e), session) ∧
      sighted relay set candidates session = [] ∧
      dispatchTraced relay set candidates session = (.error (.pattern e), session) := by
  intro set
  constructor
  · intro path written change
    have sameArgs : set.args = change.args := rfl
    have computes : set.effectivePath = .ok path := written
    have computes' : change.effectivePath = .ok path := rfl
    refine ⟨?_, ?_, ?_⟩
    · exact dispatch_of_kind blind sameArgs computes computes' session
    · exact sighted_of_kind blind sameArgs computes computes' session
    · exact dispatchTraced_of_kind blind sameArgs computes computes' session
  · intro e malformed
    have fails : set.effectivePath = .error e := malformed
    exact dispatch_of_no_path fails session

theorem set_dispatches_as_change_recorded :
    let router : Router Journal String :=
      ⟨#[⟨some "user", .pattern "user/:id", .recorded 0 (Reply.echo "user").handler⟩,
        ⟨none, .any, .recorded 1 (Reply.fail "down").handler⟩,
        ⟨none, .pattern "broken(", Reply.reject.handler⟩]⟩
    let bag : Bag := (∅ : Bag).insert "id" (.text "ann")
    let set := (Operation.set "user/(:id/)" bag).withArgs [.bool true]
    let change := (Operation.change "user/ann/").withArgs [.bool true]
    let candidates := router.pick [0, 0, 1, 2]
    let session : Session Journal := ⟨#[none, some (.ok .any), none], #[], #[#[], #[]]⟩
    (∀ c ∈ candidates, c.route.handler.KindBlind) ∧
      synthesize "user/(:id/)" bag = .ok "user/ann/" ∧
      (dispatch router.relay set candidates session).1 =
        .error (.handler 2 "*" (.message "down")) ∧
      dispatch router.relay set candidates session =
        dispatch router.relay change candidates session := by
  intro router bag set change candidates session
  have blind : ∀ c ∈ candidates, c.route.handler.KindBlind := by
    intro c member
    simp only [candidates, router, Router.pick, Router.candidate?, List.filterMap_cons,
      List.filterMap_nil] at member
    simp only [List.getElem?_toArray, List.getElem?_cons_zero, List.getElem?_cons_succ,
      Option.map_some, List.mem_cons, List.not_mem_nil, or_false] at member
    rcases member with rfl | rfl | rfl | rfl
    · exact (Reply.handler_kindBlind _).recorded 0
    · exact (Reply.handler_kindBlind _).recorded 0
    · exact (Reply.handler_kindBlind _).recorded 1
    · exact Reply.handler_kindBlind _
  have written : synthesize "user/(:id/)" bag = .ok "user/ann/" := by
    have read : Pattern.parse "user/(:id/)" =
        .ok [.piece (.literal "user/"), .group [.token "id" false]] := by rfl
    have present : bag.present? "id" = some (.text "ann") :=
      Bag.present?_eq_some_iff.mpr ⟨Std.ExtTreeMap.getElem?_insert_self, rfl⟩
    rw [synthesize, Template.parse, read]
    simp only [bind, Except.bind, pure, Except.pure, Template.expand,
      Pattern.Segment.expandUntilMissed, Pattern.Segment.expand?, Pattern.Piece.expandAll?,
      Pattern.Piece.expand?, present]
    rfl
  obtain ⟨same, -, -⟩ := (set_dispatches_as_change blind session "user/(:id/)" bag [.bool true]).1
    _ written
  refine ⟨blind, written, ?_, same⟩
  rw [same]
  decide +kernel

end PathRouting
