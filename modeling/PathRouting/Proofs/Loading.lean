import PathRouting.Proofs.Dispatch.Failures
import PathRouting.Proofs.Loading.Written

/-!
# Loading a configuration

A configuration is loaded as a whole or refused for its first error.  What is loaded has its routes
in the order of the configuration, each with its source compiled, and since nothing is left to
compile, dispatches never fail for a route's pattern.
-/

namespace PathRouting

variable {σ : Type} {registry : Registry HandlerType} {engine : Regex.Engine}
  {config : RouterConfig} {loaded : List (LoadedRoute Reply)}

def LoadedRoute.service (loaded : List (LoadedRoute Reply)) (env : σ) : Service σ String :=
  ⟨router Reply.handler loaded, session loaded env⟩

/-- The router has one route for each entry of the configuration, in order, and the cell of each
holds its compiled source. -/
structure Service.Mirrors (service : Service σ String) (registry : Registry HandlerType)
    (engine : Regex.Engine) (config : RouterConfig) : Prop where
  length : service.router.routes.size = config.routes.length
  valid : service.session.Valid service.router
  route {i : Nat} {entry : RouteConfig} : config.routes[i]? = some entry →
    ∃ route reply matcher, service.router.routes[i]? = some route ∧ route.name = entry.name ∧
      entry.Describes engine route.source ∧ entry.handler.Makes registry reply ∧
      route.handler = reply.handler ∧ Matcher.compile route.source = .ok matcher ∧
      service.session.cell? i = some (.ok matcher)

/-! ## Loading all routes -/

theorem loadRouter_of_many (many : RouteError.maxRoutes < config.routes.length) :
    registry.loadRouter engine config = .error (.tooManyRoutes config.routes.length) := by
  simp only [Registry.loadRouter, many, if_true]

theorem loadRouter_of_few (few : config.routes.length ≤ RouteError.maxRoutes) :
    registry.loadRouter engine config = config.routes.mapM (registry.loadRoute engine) := by
  have notMany : ¬ RouteError.maxRoutes < config.routes.length := by omega
  simp only [Registry.loadRouter, notMany, if_false]

theorem loadRouter_eq_error_iff (few : config.routes.length ≤ RouteError.maxRoutes)
    {e : RouteError} : registry.loadRouter engine config = .error e ↔
      FirstRefusal (RouteConfig.Refused registry engine) config.routes e := by
  rw [loadRouter_of_few few]
  exact mapM_eq_error_iff fun entry e => RouteConfig.loadRoute_eq_error_iff

theorem loads_of_loadRouter (ends : registry.loadRouter engine config = .ok loaded) :
    List.Forall₂ (RouteConfig.Loads registry engine) config.routes loaded := by
  have few : config.routes.length ≤ RouteError.maxRoutes := by
    by_contra many
    rw [loadRouter_of_many (by omega)] at ends
    cases ends
  rw [loadRouter_of_few few, mapM_eq_ok_iff] at ends
  exact ends.imp fun _ _ => RouteConfig.loadRoute_eq_ok_iff.mp

theorem exists_loaded (few : config.routes.length ≤ RouteError.maxRoutes)
    (passes : ∀ entry ∈ config.routes, ∀ e, ¬ entry.Refused registry engine e) :
    ∃ loaded, registry.loadRouter engine config = .ok loaded := by
  rw [exists_ok_iff]
  intro e fails
  rw [loadRouter_eq_error_iff few] at fails
  exact forall_not_firstRefusal_iff.mpr passes e fails

/-! ## What is loaded -/

namespace LoadedRoute

theorem routes_router (loaded : List (LoadedRoute Reply)) (i : Nat) :
    (router Reply.handler loaded : Router σ String).routes[i]? =
      loaded[i]?.map (route Reply.handler) := by
  simp [router]

theorem cell?_session (loaded : List (LoadedRoute Reply)) (env : σ) (i : Nat) :
    (session loaded env).cell? i = loaded[i]?.map fun l => .ok l.matcher := by
  cases inside : loaded[i]? <;> simp [session, Session.cell?, inside]

theorem valid_session (compiled : ∀ l ∈ loaded, Matcher.compile l.source = .ok l.matcher)
    (env : σ) : (session loaded env).Valid (router Reply.handler loaded : Router σ String) where
  size := by simp [session, router]
  holds {i route cell} found filled := by
    rw [routes_router] at found
    rw [cell?_session] at filled
    obtain ⟨l, inside, rfl⟩ := Option.map_eq_some_iff.mp found
    rw [inside, Option.map_some, Option.some.injEq] at filled
    exact filled.symm.trans (compiled l (List.mem_of_getElem? inside)).symm

theorem router_scripted (loaded : List (LoadedRoute Reply)) (allowed : Request → Prop) :
    (router Reply.handler loaded : Router σ String).Within allowed := by
  intro route member
  obtain ⟨l, -, rfl⟩ := List.mem_map.mp (List.mem_toArray.mp member)
  exact l.handler.handler_within allowed

theorem router_compiles (compiled : ∀ l ∈ loaded, Matcher.compile l.source = .ok l.matcher) :
    (router Reply.handler loaded : Router σ String).Compiles := by
  intro route member
  obtain ⟨l, inside, rfl⟩ := List.mem_map.mp (List.mem_toArray.mp member)
  exact ⟨l.matcher, compiled l inside⟩

theorem compiled_of_loads {entries : List RouteConfig}
    (loads : List.Forall₂ (RouteConfig.Loads registry engine) entries loaded) :
    ∀ l ∈ loaded, Matcher.compile l.source = .ok l.matcher := by
  induction loads with
  | nil => simp
  | cons first _ ih => exact List.forall_mem_cons.mpr ⟨first.compiled, ih⟩

theorem service_mirrors
    (loads : List.Forall₂ (RouteConfig.Loads registry engine) config.routes loaded) (env : σ) :
    (service loaded env).Mirrors registry engine config where
  length := by simpa [service, router] using loads.length_eq.symm
  valid := valid_session (compiled_of_loads loads) env
  route {i entry} listed := by
    obtain ⟨inside, rfl⟩ := List.getElem?_eq_some_iff.mp listed
    have inside' : i < loaded.length := loads.length_eq ▸ inside
    have loads : config.routes[i].Loads registry engine loaded[i] := loads.get inside inside'
    have found := List.getElem?_eq_getElem inside'
    refine ⟨loaded[i].route Reply.handler, loaded[i].handler, loaded[i].matcher, ?_, loads.name,
      loads.source, loads.handler, rfl, loads.compiled, ?_⟩
    · exact (routes_router loaded i).trans (congrArg (Option.map (route Reply.handler)) found)
    · exact (cell?_session loaded env i).trans (congrArg (Option.map _) found)

end LoadedRoute

/-- With too many routes a configuration is refused for their number.  Else it is refused exactly
for the first check that refuses a route, in the first route that is refused, and if no route is,
it is loaded: a router that mirrors it, on which every dispatch of every run of requests blames
its template or a handler if it fails. -/
theorem loadRouter_all_or_nothing (registry : Registry HandlerType) (engine : Regex.Engine)
    (config : RouterConfig) :
    (RouteError.maxRoutes < config.routes.length →
      registry.loadRouter engine config = .error (.tooManyRoutes config.routes.length)) ∧
    (config.routes.length ≤ RouteError.maxRoutes →
      (∀ e, registry.loadRouter engine config = .error e ↔
        FirstRefusal (RouteConfig.Refused registry engine) config.routes e) ∧
      ((∀ entry ∈ config.routes, ∀ e, ¬ entry.Refused registry engine e) →
        ∃ loaded, registry.loadRouter engine config = .ok loaded)) ∧
    ∀ loaded, registry.loadRouter engine config = .ok loaded → ∀ env : σ,
      (LoadedRoute.service loaded env).Mirrors registry engine config ∧
      ∀ depth (requests : List Request),
        ∀ report ∈ ((LoadedRoute.service loaded env).run depth (requests.map .ask)).1,
          report.Blames := by
  refine ⟨loadRouter_of_many, fun few => ⟨fun e => loadRouter_eq_error_iff few, exists_loaded few⟩,
    fun loaded ends env => ?_⟩
  have loads := loads_of_loadRouter ends
  have compiled := LoadedRoute.compiled_of_loads loads
  refine ⟨LoadedRoute.service_mirrors loads env, fun depth requests => ?_⟩
  exact Service.run_blames (LoadedRoute.router_compiles compiled)
    (LoadedRoute.router_scripted loaded fun _ => True) depth
    (LoadedRoute.valid_session compiled env) fun _ _ => trivial

theorem loadRouter_all_or_nothing_unknown_type :
    let engine : Regex.Engine := fun _ => .ok fun _ => some ("", [])
    let user : RouteConfig := ⟨some "user", some "user/:id", none, (Reply.echo "user").config⟩
    let rest : RouteConfig := ⟨none, none, some "", Reply.reject.config⟩
    let unknown : RouteConfig := ⟨none, some "broken(", none, ⟨"missing", .object []⟩⟩
    let twofold : RouteConfig := ⟨none, some "a", some "b", Reply.reject.config⟩
    Registry.standard.loadRouter engine ⟨[user, rest, unknown, twofold]⟩ =
        .error (.unknownTypeUrl "missing" Registry.standard.typeUrls) ∧
      ∃ loaded, Registry.standard.loadRouter engine ⟨[user, rest]⟩ = .ok loaded ∧
        (LoadedRoute.service loaded ()).Mirrors Registry.standard engine ⟨[user, rest]⟩ := by
  intro engine user rest unknown twofold
  have compiled : Matcher.compile (.pattern "user/:id") =
      .ok (.pattern (.compile [.piece (.literal "user/"), .piece (.token "id" false)]) ["id"]) := by
    rfl
  have passesUser (e : RouteError) : ¬ user.Refused Registry.standard engine e := by
    have loads : user.Loads Registry.standard engine
        ⟨some "user", .pattern "user/:id", .echo "user", _⟩ :=
      ⟨rfl, .pattern rfl rfl, Reply.makes_config (by simp), compiled⟩
    rw [← RouteConfig.loadRoute_eq_error_iff, RouteConfig.loadRoute_eq_ok_iff.mpr loads]
    simp
  have passesRest (e : RouteError) : ¬ rest.Refused Registry.standard engine e := by
    have loads : rest.Loads Registry.standard engine ⟨none, .regex ⟨"", _⟩, .reject, _⟩ :=
      ⟨rfl, .regex rfl rfl rfl, Reply.makes_config (by simp), rfl⟩
    rw [← RouteConfig.loadRoute_eq_error_iff, RouteConfig.loadRoute_eq_ok_iff.mpr loads]
    simp
  have refused : unknown.Refused Registry.standard engine
      (.unknownTypeUrl "missing" Registry.standard.typeUrls) := by
    refine .later (fun e refuses => ?_) (.later (fun e refuses => ?_) (.here ?_))
    · cases refuses with
      | twoSources _ second => cases second
    · obtain ⟨_, _, given, -⟩ := RouteConfig.regex_refuses_iff.mp refuses
      cases given
    · exact RouteConfig.typeUrl_refuses_iff.mpr
        ⟨(Registry.standard_types "missing").trans (by simp), rfl⟩
  obtain ⟨-, few, -⟩ := loadRouter_all_or_nothing (σ := Unit) Registry.standard engine
    ⟨[user, rest, unknown, twofold]⟩
  obtain ⟨-, few', loads⟩ :=
    loadRouter_all_or_nothing (σ := Unit) Registry.standard engine ⟨[user, rest]⟩
  obtain ⟨loaded, ends⟩ := (few' (by decide)).2
    (List.forall_mem_cons.mpr ⟨passesUser, List.forall_mem_singleton.mpr passesRest⟩)
  exact ⟨((few (by decide)).1 _).mpr (.later passesUser (.later passesRest (.here refused))),
    loaded, ends, (loads loaded ends ()).1⟩

end PathRouting
