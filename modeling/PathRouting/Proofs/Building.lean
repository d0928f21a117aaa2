import PathRouting.Fixture.Basic
import PathRouting.Proofs.Loading
import PathRouting.Regex.Engine

/-!
# Building and loading give the same router

Routes can be built one by one or written as a configuration and loaded.  Both give the same
router; only the cells differ, and cells do not show.  So what keeps a configuration from being
loaded is what validating the built router finds, and else nobody can tell the two apart.
-/

namespace PathRouting

variable {σ : Type} {engine : Regex.Engine}

namespace Fixture.RouteSpec

def config (spec : RouteSpec) : RouteConfig :=
  ⟨spec.name, spec.pattern, spec.regex, spec.reply.config⟩

/-- Nothing but its pattern can be wrong with the route. -/
structure Sane (engine : Regex.Engine) (spec : RouteSpec) : Prop where
  single : spec.pattern = none ∨ spec.regex = none
  regex {text : String} : spec.regex = some text →
    ∃ compiled, Regex.compile engine text = .ok compiled
  audible : spec.reply ≠ .fail ""

variable {spec : RouteSpec} {source : Source}

theorem Sane.describes (sane : spec.Sane engine) :
    ∃ source, spec.config.Describes engine source := by
  cases hasRegex : spec.regex with
  | none =>
    cases hasPattern : spec.pattern with
    | none => exact ⟨_, .any hasPattern hasRegex⟩
    | some pattern => exact ⟨_, .pattern hasPattern hasRegex⟩
  | some regex =>
    obtain ⟨compiled, compiles⟩ := sane.regex hasRegex
    have single : spec.pattern = none := sane.single.resolve_right (by simp [hasRegex])
    exact ⟨_, .regex hasRegex single compiles⟩

theorem build_of_describes (described : spec.config.Describes engine source) :
    (spec.build engine : Except RouteError (Route σ String)) =
      .ok ⟨spec.name, source, spec.reply.handler⟩ := by
  cases described with
  | @pattern text given single =>
    have given : spec.pattern = some text := given
    have single : spec.regex = none := single
    simp only [build, given, single]
    rfl
  | @regex text compiled given single compiles =>
    have given : spec.regex = some text := given
    have single : spec.pattern = none := single
    simp only [build, given, single, Source.ofRegex, compiles]
    rfl
  | any noPattern noRegex =>
    have noPattern : spec.pattern = none := noPattern
    have noRegex : spec.regex = none := noRegex
    simp only [build, noPattern, noRegex]
    rfl

theorem Sane.refused_iff (sane : spec.Sane engine) (described : spec.config.Describes engine source)
    (e : RouteError) : spec.config.Refused Registry.standard engine e ↔
      ∃ cause, Matcher.compile source = .error cause ∧ e = .pattern cause := by
  have describes := RouteConfig.source_eq_ok_iff.mpr described
  have resolves : Registry.standard.resolve spec.config.handler = .ok spec.reply :=
    RouteConfig.resolve_eq_ok_iff.mpr (Reply.makes_config sane.audible)
  rw [← RouteConfig.loadRoute_eq_error_iff, ← mapError_eq_error_iff, Registry.loadRoute, describes,
    resolves]
  exact bind_pure_eq_error_iff

theorem build_of_loads {loaded : LoadedRoute Reply}
    (loads : spec.config.Loads Registry.standard engine loaded) :
    (spec.build engine : Except RouteError (Route σ String)) =
      .ok (loaded.route Reply.handler) := by
  obtain ⟨type, registered, decoded⟩ := loads.handler.2
  obtain rfl := Option.some.inj ((Registry.standard_types_config spec.reply).symm.trans registered)
  have same : spec.reply = loaded.handler :=
    Except.ok.inj (spec.reply.decode_config.symm.trans decoded)
  rw [build_of_describes loads.source, same, show spec.name = loaded.name from loads.name.symm]
  rfl

end Fixture.RouteSpec

/-! ## The two routers -/

section

variable {specs : List Fixture.RouteSpec} {routes : List (Route σ String)}

theorem exists_built (sane : ∀ spec ∈ specs, spec.Sane engine) :
    ∃ routes : List (Route σ String), specs.mapM (Fixture.RouteSpec.build engine) = .ok routes ∧
      List.Forall₂ (fun spec route => spec.Sane engine ∧ spec.config.Describes engine route.source)
        specs routes := by
  induction specs with
  | nil => exact ⟨[], rfl, .nil⟩
  | cons spec specs ih =>
    obtain ⟨first, others⟩ := List.forall_mem_cons.mp sane
    obtain ⟨source, described⟩ := first.describes
    obtain ⟨routes, built, paired⟩ := ih others
    have head := Fixture.RouteSpec.build_of_describes (σ := σ) described
    refine ⟨⟨spec.name, source, spec.reply.handler⟩ :: routes, ?_,
      .cons ⟨first, described⟩ paired⟩
    rw [mapM_eq_ok_iff] at built ⊢
    exact .cons head built

theorem loadRouter_eq_error_iff_validate (few : specs.length ≤ RouteError.maxRoutes)
    (paired : List.Forall₂ (fun spec route =>
      spec.Sane engine ∧ spec.config.Describes engine route.source) specs routes)
    {session : Session σ}
    (valid : session.Valid (⟨routes.toArray⟩ : Router σ String)) (e : RouteError) :
    Registry.standard.loadRouter engine ⟨specs.map Fixture.RouteSpec.config⟩ = .error e ↔
      ∃ cause, (Router.validate ⟨routes.toArray⟩ session).1 = .error cause ∧
        e = .pattern cause := by
  rw [loadRouter_eq_error_iff (by simpa using few), firstRefusal_map_iff]
  simp only [Router.validate_eq_error_iff valid]
  exact firstRefusal_iff_of_forall₂ (paired.imp fun spec route ⟨sane, described⟩ e =>
    sane.refused_iff described e)

theorem router_loaded {loaded : List (LoadedRoute Reply)}
    (built : specs.mapM (Fixture.RouteSpec.build engine) = .ok routes)
    (loads : List.Forall₂ (RouteConfig.Loads Registry.standard engine)
      (specs.map Fixture.RouteSpec.config) loaded) :
    LoadedRoute.router Reply.handler loaded = (⟨routes.toArray⟩ : Router σ String) := by
  have again : specs.mapM (Fixture.RouteSpec.build engine) =
      .ok (loaded.map (LoadedRoute.route (Reply.handler (σ := σ)))) := by
    rw [List.forall₂_map_left_iff] at loads
    rw [mapM_eq_ok_iff, List.forall₂_map_right_iff]
    exact loads.imp fun _ _ => Fixture.RouteSpec.build_of_loads
  rw [LoadedRoute.router, Except.ok.inj (again.symm.trans built)]

end

/-- A list of sane specs is refused as a configuration exactly if validating the built router finds
an error, and for that error.  Else the loaded router and the built one, whatever cells of the
latter are filled, report the same of all actions. -/
theorem loaded_answers_as_built {specs : List Fixture.RouteSpec}
    (few : specs.length ≤ RouteError.maxRoutes) (sane : ∀ spec ∈ specs, spec.Sane engine) :
    ∃ routes : List (Route σ String), specs.mapM (Fixture.RouteSpec.build engine) = .ok routes ∧
      ∀ session : Session σ, session.Valid (⟨routes.toArray⟩ : Router σ String) →
        let built : Service σ String := ⟨⟨routes.toArray⟩, session⟩
        let loading := Registry.standard.loadRouter engine ⟨specs.map Fixture.RouteSpec.config⟩
        (∀ e, loading = .error e ↔
          ∃ cause, (built.router.validate session).1 = .error cause ∧ e = .pattern cause) ∧
        ∀ loaded, loading = .ok loaded → ∀ depth (actions : List (Action σ String)),
          (∀ action ∈ actions, action.Blind) →
            ((LoadedRoute.service loaded session.env).run depth actions).1 =
              (built.run depth actions).1 := by
  obtain ⟨routes, built, paired⟩ := exists_built sane
  refine ⟨routes, built, fun session valid => ⟨?_, ?_⟩⟩
  · exact loadRouter_eq_error_iff_validate few paired valid
  · intro loaded ends depth actions blind
    have loads := loads_of_loadRouter ends
    have same := router_loaded built loads
    have validLoaded := LoadedRoute.valid_session (LoadedRoute.compiled_of_loads loads) session.env
    have alike : (LoadedRoute.service loaded session.env).Alike ⟨⟨routes.toArray⟩, session⟩ :=
      ⟨same, validLoaded, same ▸ valid, rfl⟩
    exact (alike.run depth (LoadedRoute.router_scripted loaded _) blind).1

theorem loaded_answers_as_built_regex :
    let engine := Regex.backtracking
    let user : Fixture.RouteSpec := ⟨some "user", some "user/:id", none, .echo "user"⟩
    let legacy : Fixture.RouteSpec := ⟨none, none, some "b", .fail "gone"⟩
    let actions : List (Action Unit String) :=
      [.ask (.traced (.change "user/7")), .ask (.event ⟨"route/set", "b/:x", ∅, [.int 1]⟩),
        .ask (.event ⟨"route/get", "user/7", ∅, []⟩)]
    (∀ spec ∈ [user, legacy], spec.Sane engine) ∧
      ∃ routes loaded, [user, legacy].mapM (Fixture.RouteSpec.build engine) = .ok routes ∧
        Registry.standard.loadRouter engine ⟨[user, legacy].map Fixture.RouteSpec.config⟩ =
          .ok loaded ∧
        ((LoadedRoute.service loaded ()).run 1 actions).1 =
          ((Router.fresh ⟨routes.toArray⟩ ()).run 1 actions).1 := by
  intro engine user legacy actions
  obtain ⟨regex, compiles⟩ : ∃ regex, Regex.compile engine "b" = .ok regex := by
    refine ⟨⟨"b", Regex.searchProgram #[.save 0, .char 'b', .save 1, .accept] 0⟩, ?_⟩
    rfl
  have compiled : Matcher.compile (.pattern "user/:id") =
      .ok (.pattern (.compile [.piece (.literal "user/"), .piece (.token "id" false)]) ["id"]) := by
    rfl
  have saneUser : user.Sane engine := ⟨.inr rfl, by simp [user], by simp [user]⟩
  have saneLegacy : legacy.Sane engine :=
    ⟨.inl rfl, fun given => ⟨regex, Option.some.inj given ▸ compiles⟩, by simp [legacy]⟩
  have sane : ∀ spec ∈ [user, legacy], spec.Sane engine :=
    List.forall_mem_cons.mpr ⟨saneUser, List.forall_mem_singleton.mpr saneLegacy⟩
  have passesUser (e : RouteError) : ¬ user.config.Refused Registry.standard engine e := by
    rw [saneUser.refused_iff (.pattern rfl rfl)]
    simp [compiled]
  have passesLegacy (e : RouteError) : ¬ legacy.config.Refused Registry.standard engine e := by
    rw [saneLegacy.refused_iff (.regex rfl rfl compiles)]
    simp [Matcher.compile]
  obtain ⟨loaded, ends⟩ : ∃ loaded,
      Registry.standard.loadRouter engine ⟨[user, legacy].map Fixture.RouteSpec.config⟩ =
        .ok loaded :=
    exists_loaded (by decide) (List.forall_mem_cons.mpr
      ⟨passesUser, List.forall_mem_singleton.mpr passesLegacy⟩)
  obtain ⟨routes, built, same⟩ := loaded_answers_as_built (by decide) sane
  obtain ⟨-, reports⟩ := same _ (Router.valid_session ⟨routes.toArray⟩ ())
  refine ⟨sane, routes, loaded, built, ends, reports loaded ends 1 actions fun action member => ?_⟩
  simp only [actions, List.mem_cons, List.not_mem_nil, or_false] at member
  rcases member with rfl | rfl | rfl <;> exact id

end PathRouting
