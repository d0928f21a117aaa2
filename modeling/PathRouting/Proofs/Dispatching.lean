import PathRouting.Proofs.Dispatch.Fold

/-!
# What a dispatch does

A dispatch over routes of a router, picked in any order, is their fold: the handlers of the
matching routes are called from left to right, up to the first route that stops the dispatch, and
the result is that of the stop or of the last call.
-/

namespace PathRouting

section

variable {σ ρ : Type} {op : Operation} {path : String} {relay : Relay σ ρ}
  {candidates : List (Candidate σ ρ)} {session : Session σ}

/-- A dispatch ends with the result and the outside state of the fold over its routes.  The
handlers may be any functions of the call and of the outside state. -/
theorem dispatch_folds {router : Router σ ρ} {answer : Route σ ρ → Answer σ ρ}
    (valid : session.Valid router) (offers : router.Offers candidates)
    (answers : ∀ c ∈ candidates, c.route.handler.AnswersAs router relay (answer c.route))
    (computes : op.effectivePath = .ok path) :
    ∃ result after, dispatch relay op candidates session = (result, after) ∧
      after.Valid router ∧
      Folds answer op path 0 .noMatch (candidates.map (·.route)) session.env result after.env := by
  obtain ⟨validAfter, folds⟩ := offer_folds answer offers answers 0 .noMatch none valid
  exact ⟨_, _, dispatch_eq_offer computes, validAfter, folds⟩

theorem dispatch_folds_rejected :
    let answer (name : Option String) : Answer (List Call) String := fun call calls =>
      (if name = some "gate" then .ok .reject else .ok (.proceed call.path), calls ++ [call])
    let route (name text : String) : Route (List Call) String :=
      ⟨some name, .pattern text, .ofAnswer (answer (some name))⟩
    let router : Router (List Call) String :=
      ⟨#[route "item" "item/:id", route "gate" "item/:id?", route "broken" "item("]⟩
    let candidates := router.pick [0, 0, 1, 2]
    ∃ result after,
      dispatch router.relay (.change "item/7") candidates (router.session []) = (result, after) ∧
        after.Valid router ∧
        Folds (fun route => answer route.name) (.change "item/7") "item/7" 0 .noMatch
          (candidates.map (·.route)) [] result after.env := by
  intro answer route router candidates
  refine dispatch_folds (router.valid_session []) (router.offers_pick _) (fun c member => ?_) rfl
  have named : c.route.handler = .ofAnswer (answer c.route.name) := by
    simp only [candidates, router, Router.pick, Router.candidate?, List.filterMap_cons,
      List.filterMap_nil] at member
    simp only [List.getElem?_toArray, List.getElem?_cons_zero, List.getElem?_cons_succ,
      Option.map_some, List.mem_cons, List.not_mem_nil, or_false] at member
    rcases member with rfl | rfl | rfl | rfl <;> rfl
  rw [named]
  exact Handler.ofAnswer_answersAs _ router router.relay

end

end PathRouting
