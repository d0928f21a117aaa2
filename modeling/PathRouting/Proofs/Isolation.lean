import PathRouting.Fixture.Basic
import PathRouting.Proofs.Dispatch.Cells
import PathRouting.Proofs.Fallible

/-!
# Cases of a fixture are isolated

All cases of a fixture run on one router, and what one of them compiles the later ones find in the
cells.  That does not show: every case has the result it has alone, on a router that was just built,
so nothing depends on which cases run before it or on how they end.
-/

namespace PathRouting.Fixture

/-- What comes of a case on a router that was never asked before. -/
def Case.result (router : Router Unit String) (c : Case) : CaseResult :=
  ⟨c.name, c.expected, .ofResult (router.dispatchEvent c.event (router.session ())).1⟩

/-- Builds the router of the fixture anew and dispatches one case on it, and nothing else. -/
def alone (engine : Regex.Engine) (fixture : Fixture) (c : Case) :
    Except RouteError Expectation := do
  let router ← fixture.router engine
  return (c.result router).actual

variable {engine : Regex.Engine}

/-! ## Routers that are built -/

theorem RouteSpec.handler_of_build {σ : Type} {spec : RouteSpec} {route : Route σ String}
    (built : spec.build engine = .ok route) : route.handler = spec.reply.handler := by
  unfold build at built
  split at built
  · cases built
  · obtain rfl := Except.ok.inj built
    rfl
  · obtain ⟨_, -, rfl⟩ := bind_pure_eq_ok_iff.mp built
    rfl
  · obtain rfl := Except.ok.inj built
    rfl

theorem RouteSpec.blind_of_build {σ : Type} {specs : List RouteSpec}
    {routes : List (Route σ String)}
    (built : List.Forall₂ (fun spec route => spec.build engine = .ok route) specs routes) :
    ∀ route ∈ routes, route.handler.Blind := by
  induction built with
  | nil => simp
  | cons built _ ih =>
    refine List.forall_mem_cons.mpr ⟨?_, ih⟩
    rw [handler_of_build built]
    exact Reply.handler_within _ _

section

variable {fixture : Fixture} {router : Router Unit String} {session : Session Unit}

theorem blind_of_router (built : fixture.router engine = .ok router) : router.Blind := by
  obtain ⟨routes, each, rfl⟩ := bind_pure_eq_ok_iff.mp built
  have blind := RouteSpec.blind_of_build (mapM_eq_ok_iff.mp each)
  exact fun route member => blind route (List.mem_toArray.mp member)

/-! ## One case after the other -/

theorem runCases_eq_map (blind : router.Blind) (cases : List Case) (valid : session.Valid router) :
    runCases router session cases = cases.map (Case.result router) := by
  induction cases generalizing session with
  | nil => rfl
  | cons c cases ih =>
    have alike : session.Alike router (router.session ()) := ⟨valid, router.valid_session (), rfl⟩
    have shown : ¬ (Request.event c.event).Looks := id
    obtain ⟨same, after⟩ := blind.alike shown Router.nestingLimit alike
    have same : (router.dispatchEvent c.event session).1 =
      (router.dispatchEvent c.event (router.session ())).1 := same
    rw [runCases, List.map_cons, Case.result, ← same, ← ih after.left]
    rfl

theorem alone_of_router (built : fixture.router engine = .ok router) (c : Case) :
    fixture.alone engine c = .ok (c.result router).actual := by
  rw [alone, built]
  rfl

theorem CaseResult.passed_iff {result : CaseResult} :
    result.passed = true ↔ result.actual = result.expected :=
  beq_iff_eq

/-- On a router of the fixture, whatever has been compiled in it, cases have one result each, in
order: what comes of the case alone on a router built for it, and it passes exactly if this is
expected.  Cases that are listed in any other order have their results in that order, and the
results of two lists of cases stand one behind the other. -/
theorem cases_isolated (built : fixture.router engine = .ok router) (valid : session.Valid router) :
    let results := runCases router session
    (∀ cases, (results cases).length = cases.length ∧
      ∀ (i : Nat) (c : Case), cases[i]? = some c → ∃ result, (results cases)[i]? = some result ∧
        result.name = c.name ∧ result.expected = c.expected ∧
        fixture.alone engine c = .ok result.actual ∧
        (result.passed = true ↔ fixture.alone engine c = .ok c.expected)) ∧
    (∀ cases (order : List Nat), results (order.filterMap (cases[·]?)) =
      order.filterMap ((results cases)[·]?)) ∧
    ∀ cases others, results (cases ++ others) = results cases ++ results others := by
  intro results
  have each (cases : List Case) : results cases = cases.map (Case.result router) :=
    runCases_eq_map (blind_of_router built) cases valid
  refine ⟨fun cases => ⟨?_, fun i c listed => ?_⟩, fun cases order => ?_, fun cases others => ?_⟩
  · rw [each, List.length_map]
  · refine ⟨c.result router, ?_, rfl, rfl, alone_of_router built c, ?_⟩
    · rw [each, List.getElem?_map, listed, Option.map_some]
    · rw [CaseResult.passed_iff, alone_of_router built, Except.ok.injEq]
      rfl
  · simp only [each, List.getElem?_map, List.map_filterMap]
  · simp only [each, List.map_append]

theorem cases_isolated_malformed :
    let engine : Regex.Engine := fun _ => .ok fun _ => some ("", [])
    let fixture : Fixture := ⟨"mixed", "",
      [⟨none, none, some "", .echo "any"⟩, ⟨some "user", some "user/:id", none, .echo "user"⟩,
        ⟨none, some "broken(", none, .reject⟩], []⟩
    let first : Case := ⟨"first", ⟨"route/change", "user/7", ∅, []⟩, .handled "user(7)"⟩
    let other : Case := ⟨"other", ⟨"route/get", "user/7", ∅, []⟩, .error "unsupported_operation"⟩
    let last : Case := ⟨"last", ⟨"route/set", "nobody", ∅, []⟩, .error "pattern"⟩
    let cases := [first, other, last]
    ∃ router, fixture.router engine = .ok router ∧ (router.session ()).Valid router ∧
      let results := runCases router (router.session ())
      (results cases).map (·.passed) = [false, true, true] ∧
      (∃ result, (results cases)[2]? = some result ∧
        fixture.alone engine last = .ok result.actual) ∧
      results ([2, 0].filterMap (cases[·]?)) = [2, 0].filterMap ((results cases)[·]?) := by
  intro engine fixture first other last cases
  have built : fixture.router engine = .ok
      ⟨#[⟨none, .regex ⟨"", fun _ => some ("", [])⟩, (Reply.echo "any").handler⟩,
        ⟨some "user", .pattern "user/:id", (Reply.echo "user").handler⟩,
        ⟨none, .pattern "broken(", Reply.reject.handler⟩]⟩ := rfl
  obtain ⟨each, order, -⟩ := cases_isolated built (Router.valid_session _ ())
  obtain ⟨result, found, -, -, alone, -⟩ := (each cases).2 2 last rfl
  exact ⟨_, built, Router.valid_session _ (), by decide +kernel, ⟨result, found, alone⟩,
    order cases [2, 0]⟩

end

end PathRouting.Fixture
