import PathRouting.Proofs.Dispatch.Offering
import PathRouting.Proofs.Fallible

/-!
# The handler that a dispatch fails in

A dispatch that blames a handler has called it, at the position that the error tells, and the
handler has failed for the cause that the error tells.  And a handler that was called and has failed
is the one that the dispatch blames.
-/

namespace PathRouting

variable {σ ρ : Type}

/-! ## The calls of a dispatch -/

/-- The calls of a dispatch over candidates, `index` being the position of the first, and how it
ended.  Only the last handler that was called can have failed, and if it did, the dispatch failed
there. -/
inductive Called (relay : Relay σ ρ) : Nat → List (Candidate σ ρ) → List (Sighting σ) →
    Except RouteError (Run ρ) → Prop where
  | quiet {index : Nat} {candidates : List (Candidate σ ρ)} {result : Except RouteError (Run ρ)}
      (other : ∀ i label cause, result ≠ .error (.handler i label cause)) :
      Called relay index candidates [] result
  | missed {index : Nat} {c : Candidate σ ρ} {rest : List (Candidate σ ρ)}
      {calls : List (Sighting σ)} {result : Except RouteError (Run ρ)}
      (behind : Called relay (index + 1) rest calls result) :
      Called relay index (c :: rest) calls result
  | answered {index : Nat} {c : Candidate σ ρ} {rest : List (Candidate σ ρ)} {seen : Sighting σ}
      {calls : List (Sighting σ)} {result : Except RouteError (Run ρ)} {flow : Flow ρ}
      (position : seen.call.index = index)
      (answers : (c.route.handler relay seen.call seen.session).1 = .ok flow)
      (behind : Called relay (index + 1) rest calls result) :
      Called relay index (c :: rest) (seen :: calls) result
  | failed {index : Nat} {c : Candidate σ ρ} {rest : List (Candidate σ ρ)} {seen : Sighting σ}
      {cause : HandlerError} (position : seen.call.index = index)
      (fails : (c.route.handler relay seen.call seen.session).1 = .error cause) :
      Called relay index (c :: rest) [seen] (.error (.handler index c.route.label cause))

section

variable {relay : Relay σ ρ} {op : Operation} {path : String} {candidates : List (Candidate σ ρ)}
  {i : Nat} {label : String} {cause : HandlerError}

theorem Called.le_index {index : Nat} {calls : List (Sighting σ)}
    {result : Except RouteError (Run ρ)} (called : Called relay index candidates calls result) :
    ∀ seen ∈ calls, index ≤ seen.call.index := by
  induction called with
  | quiet => simp
  | missed _ ih => exact fun seen member => Nat.le_of_succ_le (ih seen member)
  | answered position _ _ ih =>
    have first := Nat.le_of_eq position.symm
    exact List.forall_mem_cons.mpr ⟨first, fun seen member => Nat.le_of_succ_le (ih seen member)⟩
  | failed position => exact List.forall_mem_singleton.mpr (Nat.le_of_eq position.symm)

theorem Called.index_lt {index : Nat} {calls : List (Sighting σ)}
    {result : Except RouteError (Run ρ)} (called : Called relay index candidates calls result) :
    ∀ seen ∈ calls, seen.call.index < index + candidates.length := by
  induction called with
  | quiet => simp
  | missed _ ih =>
    intro seen member
    have inside := ih seen member
    rw [List.length_cons]
    omega
  | answered position _ _ ih =>
    refine List.forall_mem_cons.mpr ⟨by rw [List.length_cons]; omega, fun seen member => ?_⟩
    have inside := ih seen member
    rw [List.length_cons]
    omega
  | failed position => exact List.forall_mem_singleton.mpr (by rw [List.length_cons]; omega)

theorem Called.eq_error_iff {index : Nat} {calls : List (Sighting σ)}
    {result : Except RouteError (Run ρ)} (called : Called relay index candidates calls result) :
    result = .error (.handler i label cause) ↔
      ∃ k c, candidates[k]? = some c ∧ i = index + k ∧ label = c.route.label ∧
        ∃ seen ∈ calls, seen.call.index = i ∧
          (c.route.handler relay seen.call seen.session).1 = .error cause := by
  have shift (index k : Nat) : index + (k + 1) = index + 1 + k := by omega
  induction called with
  | quiet other => simp [other]
  | missed behind ih =>
    refine ih.trans ?_
    constructor
    · intro blamed
      obtain ⟨k, d, found, position, call⟩ := blamed
      exact ⟨k + 1, d, found, (shift _ k).symm ▸ position, call⟩
    · intro blamed
      obtain ⟨k, d, found, rfl, label, seen, member, position, fails⟩ := blamed
      have later := behind.le_index seen member
      cases k with
      | zero => omega
      | succ k => exact ⟨k, d, found, shift _ k, label, seen, member, position, fails⟩
  | answered here answers behind ih =>
    refine ih.trans ?_
    constructor
    · intro blamed
      obtain ⟨k, d, found, position, label, seen, member, call⟩ := blamed
      exact ⟨k + 1, d, found, (shift _ k).symm ▸ position, label, seen,
        List.mem_cons_of_mem _ member, call⟩
    · intro blamed
      obtain ⟨k, d, found, rfl, label, seen, member, position, fails⟩ := blamed
      cases k with
      | zero =>
        obtain rfl := Option.some.inj found
        rcases List.mem_cons.mp member with rfl | member
        · cases answers.symm.trans fails
        · have later := behind.le_index seen member
          omega
      | succ k =>
        rcases List.mem_cons.mp member with rfl | member
        · omega
        · exact ⟨k, d, found, shift _ k, label, seen, member, position, fails⟩
  | @failed index c rest seen cause here fails =>
    constructor
    · intro same
      simp only [Except.error.injEq, RouteError.handler.injEq] at same
      obtain ⟨rfl, rfl, rfl⟩ := same
      exact ⟨0, c, rfl, rfl, rfl, seen, List.mem_singleton_self seen, here, fails⟩
    · intro blamed
      obtain ⟨k, d, found, rfl, rfl, other, member, position, fails'⟩ := blamed
      obtain rfl := List.mem_singleton.mp member
      have first : k = 0 := by omega
      subst first
      obtain rfl := Option.some.inj found
      obtain rfl := Except.error.inj (fails.symm.trans fails')
      rfl

theorem Offering.called {index : Nat} {before : Outcome ρ} {log : StepLog}
    {session after : Session σ} {calls : List (Sighting σ)} {result : Except RouteError (Run ρ)}
    (offering : Offering relay op path index before log candidates session calls result after) :
    Called relay index candidates calls result := by
  induction offering with
  | ended | malformed => exact .quiet (by simp)
  | missed _ _ _ ih => exact .missed ih
  | failed _ _ fails => exact .failed rfl (congrArg Prod.fst fails)
  | rejected _ _ rejects =>
    exact .answered rfl (congrArg Prod.fst rejects) (.quiet (by simp))
  | answered _ _ proceeds _ ih => exact .answered rfl (congrArg Prod.fst proceeds) ih

theorem index_lt_of_mem_sighted {session : Session σ} {seen : Sighting σ}
    (member : seen ∈ sighted relay op candidates session) :
    seen.call.index < candidates.length := by
  cases computes : op.effectivePath with
  | error e => simp [sighted, dispatch, computes, Session.watched] at member
  | ok path =>
    have inside := (sighted_offering computes session).called.index_lt seen member
    rwa [Nat.zero_add] at inside

theorem dispatch_eq_error_iff {session : Session σ} :
    (dispatch relay op candidates session).1 = .error (.handler i label cause) ↔
      ∃ c, candidates[i]? = some c ∧ label = c.route.label ∧
        ∃ seen ∈ sighted relay op candidates session, seen.call.index = i ∧
          (c.route.handler relay seen.call seen.session).1 = .error cause := by
  cases computes : op.effectivePath with
  | error e => simp [sighted, dispatch, computes, Session.watched]
  | ok path =>
    rw [dispatch_eq_offer computes, map_eq_error_iff,
      (sighted_offering computes session).called.eq_error_iff]
    simp only [Nat.zero_add]
    constructor
    · intro blamed
      obtain ⟨_, c, found, rfl, call⟩ := blamed
      exact ⟨c, found, call⟩
    · intro blamed
      obtain ⟨c, found, call⟩ := blamed
      exact ⟨i, c, found, rfl, call⟩

end

end PathRouting
