import PathRouting.CommandLine.Host
import PathRouting.Proofs.Commands.Reports
import PathRouting.Proofs.Dispatch.Calling
import PathRouting.Proofs.Loading
import PathRouting.Proofs.Setting

/-!
# The commands agree with each other

What one command prints tells what another does.  A set prints what a change to its expanded path
prints, showing the steps changes neither the output nor the complaint, a command that fails prints
nothing, and over a configuration that was checked a change fails only where a handler does.
-/

namespace PathRouting

variable {loaded : List (LoadedRoute Reply)}

/-! ## Dispatches over loaded routes -/

namespace LoadedRoute

variable {σ : Type}

theorem candidates_kindBlind (loaded : List (LoadedRoute Reply)) :
    ∀ c ∈ (router Reply.handler loaded : Router σ String).candidates,
      c.route.handler.KindBlind := by
  intro c member
  have found := (router Reply.handler loaded : Router σ String).offers_candidates c member
  rw [routes_router] at found
  obtain ⟨l, -, same⟩ := Option.map_eq_some_iff.mp found
  rw [← same]
  exact l.handler.handler_kindBlind

/-- The dispatch calls the handler of a loaded route that was configured to fail, and this error
tells the position and the label of the route. -/
def FailingCall (loaded : List (LoadedRoute Reply)) (env : σ) (op : Operation)
    (e : RouteError) : Prop :=
  let router : Router σ String := router Reply.handler loaded
  ∃ call ∈ router.calls router.relay (.dispatch op) (session loaded env),
    ∃ l text, loaded[call.index]? = some l ∧ l.handler = .fail text ∧
      e = .handler call.index (l.route Reply.handler : Route σ String).label (.message text)

theorem candidates_router (loaded : List (LoadedRoute Reply)) (i : Nat) :
    (router Reply.handler loaded : Router σ String).candidates[i]? =
      loaded[i]?.map fun l => ⟨i, l.route Reply.handler⟩ := by
  rw [Router.getElem?_candidates, Router.candidate?, routes_router, Option.map_map]
  rfl

theorem answer_eq_error_iff {l : LoadedRoute Reply} {relay : Relay σ String} {call : Call}
    {session : Session σ} {cause : HandlerError} :
    ((l.route Reply.handler : Route σ String).handler relay call session).1 = .error cause ↔
      ∃ text, l.handler = .fail text ∧ cause = .message text := by
  cases reply : l.handler with
  | echo | constant | reject => simp [route, Reply.handler, Reply.answer, reply]
  | fail text => simp [route, Reply.handler, Reply.answer, reply, eq_comm]

theorem change_eq_error_iff (compiled : ∀ l ∈ loaded, Matcher.compile l.source = .ok l.matcher)
    {op : Operation} (change : op.kind = .change) (env : σ) {e : RouteError} :
    ((router Reply.handler loaded).dispatch op (session loaded env)).1 = .error e ↔
      FailingCall loaded env op e := by
  have blames
      (fails : ((router Reply.handler loaded).dispatch op (session loaded env)).1 = .error e) :
      ∃ index label cause, e = .handler index label cause := by
    have within := router_scripted (σ := σ) loaded fun _ => True
    have keeps := within.keepsValid (Router.nestingLimit - 1)
    cases dispatch_blames (router Reply.handler loaded).offers_candidates keeps
      (router_compiles compiled) (valid_session compiled env) fails with
    | template set malformed => cases change.symm.trans set
    | handler index label cause => exact ⟨index, label, cause, rfl⟩
  constructor
  · intro fails
    obtain ⟨index, label, cause, rfl⟩ := blames fails
    obtain ⟨c, found, rfl, seen, noted, rfl, answered⟩ := dispatch_eq_error_iff.mp fails
    rw [candidates_router] at found
    obtain ⟨l, inside, rfl⟩ := Option.map_eq_some_iff.mp found
    obtain ⟨text, reply, rfl⟩ := answer_eq_error_iff.mp answered
    rw [← Router.sightings_dispatch] at noted
    exact ⟨seen.call, List.mem_map_of_mem noted, l, text, inside, reply, rfl⟩
  · intro blamed
    obtain ⟨call, called, l, text, inside, reply, rfl⟩ := blamed
    obtain ⟨seen, noted, rfl⟩ := List.mem_map.mp called
    rw [Router.sightings_dispatch] at noted
    have found := (candidates_router (σ := σ) loaded seen.call.index).trans
      (congrArg (Option.map _) inside)
    refine dispatch_eq_error_iff.mpr ⟨_, found, rfl, seen, noted, rfl, ?_⟩
    exact answer_eq_error_iff.mpr ⟨text, reply, rfl⟩

end LoadedRoute

/-! ## Dispatches of a command -/

namespace CommandLine

variable {host : Host} {config template : String} {data args : List String}
  {command other : Command} {op : Operation} {trace : Bool}

/-- What is printed of an outcome. -/
inductive Renders : Outcome String → String → Prop where
  | handled (result : String) : Renders (.handled result) result
  | noMatch : Renders .noMatch "(no match)"
  | rejected : Renders .rejected "(rejected)"

theorem renders_iff {outcome : Outcome String} {text : String} :
    Renders outcome text ↔ renderOutcome outcome = text := by
  constructor
  · intro renders
    cases renders <;> rfl
  · rintro rfl
    cases outcome with
    | handled result => exact .handled result
    | noMatch => exact .noMatch
    | rejected => exact .rejected

/-- What dispatching an operation on a configuration comes to. -/
def answer (host : Host) (config : String) (op : Operation) (args : List String) :
    Except CommandError (Outcome String) := do
  let loaded ← loadRoutes host config
  let router : Router Unit String := LoadedRoute.router Reply.handler loaded
  let op := op.withArgs (args.map Value.coerce)
  (router.dispatch op (LoadedRoute.session loaded ())).1.mapError .dispatchFailed

theorem answer_of_loads {loaded : List (LoadedRoute Reply)}
    (loads : loadRoutes host config = .ok loaded) (op : Operation) (args : List String) :
    answer host config op args = ((LoadedRoute.router Reply.handler loaded).dispatch
      (op.withArgs (args.map Value.coerce)) (LoadedRoute.session loaded ())).1.mapError
        .dispatchFailed := by
  simp only [answer, loads]
  rfl

theorem dispatchOn_of_error (options : DispatchOptions) {e : CommandError}
    (fails : answer host config op options.args = .error e) :
    dispatchOn host config op options = throw e := by
  obtain ⟨args, trace⟩ := options
  cases loads : loadRoutes host config with
  | error refusal =>
    simp only [answer, loads] at fails
    obtain rfl := Except.error.inj fails
    simp only [dispatchOn, loads, CommandM.lift_error_bind]
  | ok loaded =>
    rw [answer_of_loads loads, mapError_eq_error_iff] at fails
    obtain ⟨cause, fails, rfl⟩ := fails
    have traced := (dispatchTraced_eq_dispatch _ _ _ _).1.trans fails
    rw [map_eq_error_iff] at traced
    simp only [dispatchOn, loads, CommandM.lift_ok_bind, Router.dispatchTraced, traced, fails,
      Except.mapError, CommandM.lift_error_bind, ite_self]

theorem dispatchOn_of_ok {outcome : Outcome String}
    (answers : answer host config op args = .ok outcome) :
    dispatchOn host config op ⟨args, false⟩ = printLine (renderOutcome outcome) := by
  obtain ⟨loaded, loads, answers⟩ := bind_eq_ok_iff.mp answers
  rw [mapError_eq_ok_iff] at answers
  simp only [dispatchOn, loads, CommandM.lift_ok_bind, answers, Except.mapError,
    Bool.false_eq_true, if_false]

theorem dispatchOn_traced_of_ok {outcome : Outcome String}
    (answers : answer host config op args = .ok outcome) :
    ∃ shown, dispatchOn host config op ⟨args, true⟩ =
      (do showLine shown; printLine (renderOutcome outcome)) := by
  obtain ⟨loaded, loads, answers⟩ := bind_eq_ok_iff.mp answers
  rw [mapError_eq_ok_iff] at answers
  have traced := (dispatchTraced_eq_dispatch _ _ _ _).1.trans answers
  obtain ⟨trace, ends, same⟩ := map_eq_ok_iff.mp traced
  refine ⟨trace.display, ?_⟩
  simp only [dispatchOn, loads, CommandM.lift_ok_bind, Router.dispatchTraced, ends, same,
    Except.mapError, if_true]

theorem report_of_outcome {outcome : Outcome String}
    (runs : execute host command = dispatchOn host config op ⟨args, trace⟩)
    (answers : answer host config op args = .ok outcome) :
    ∃ shown, report host command = ⟨0, renderOutcome outcome ++ "\n", shown⟩ ∧
      (trace = false → shown = "") := by
  cases trace with
  | false => exact ⟨"", report_of_printLine (runs.trans (dispatchOn_of_ok answers)), fun _ => rfl⟩
  | true =>
    obtain ⟨shown, prints⟩ := dispatchOn_traced_of_ok answers
    have ends : (execute host command).run.run ⟨"", ""⟩ =
        (.ok (), ⟨renderOutcome outcome ++ "\n", "" ++ shown ++ "\n"⟩) := by
      rw [runs, prints, CommandM.run_showLine_printLine, String.empty_append]
    exact ⟨_, report_of_ok ends, nofun⟩

theorem report_of_refusal {e : CommandError}
    (runs : execute host command = dispatchOn host config op ⟨args, trace⟩)
    (fails : answer host config op args = .error e) : report host command = e.report :=
  report_of_throw (runs.trans (dispatchOn_of_error _ fails))

/-- Showing the steps changes nothing else in the report of a dispatch. -/
theorem report_traced_alike
    (runs : execute host command = dispatchOn host config op ⟨args, true⟩)
    (runs' : execute host other = dispatchOn host config op ⟨args, false⟩) :
    (report host command).Alike (report host other) := by
  cases answers : answer host config op args with
  | error e =>
    rw [report_of_refusal runs answers, report_of_refusal runs' answers]
    exact ⟨rfl, rfl, rfl⟩
  | ok outcome =>
    obtain ⟨shown, reports, -⟩ := report_of_outcome runs answers
    obtain ⟨shown', reports', -⟩ := report_of_outcome runs' answers
    rw [reports, reports']
    exact ⟨rfl, rfl, rfl⟩

theorem report_congr (runs : execute host command = dispatchOn host config op ⟨args, false⟩)
    {op' : Operation} (runs' : execute host other = dispatchOn host config op' ⟨args, false⟩)
    (same : answer host config op args = answer host config op' args) :
    report host command = report host other := by
  cases answers : answer host config op args with
  | error e => rw [report_of_refusal runs answers, report_of_refusal runs' (same ▸ answers)]
  | ok outcome =>
    obtain ⟨_, reports, silent⟩ := report_of_outcome runs answers
    obtain ⟨_, reports', silent'⟩ := report_of_outcome runs' (same ▸ answers)
    rw [reports, reports', silent rfl, silent' rfl]

theorem dispatch_prints_iff
    (runs : execute host command = dispatchOn host config op ⟨args, trace⟩) {text : String} :
    (report host command).Prints text ↔
      ∃ outcome, answer host config op args = .ok outcome ∧ Renders outcome text := by
  cases answers : answer host config op args with
  | error e =>
    rw [report_of_refusal runs answers]
    exact iff_of_false (e.not_prints text) nofun
  | ok outcome =>
    obtain ⟨shown, reports, -⟩ := report_of_outcome runs answers
    simp only [reports, prints_iff, Except.ok.injEq, exists_eq_left', renders_iff]

/-- Operations with one path and the same arguments come to the same. -/
theorem answer_of_path (host : Host) (config : String) {op op' : Operation} {path : String}
    (computes : op.effectivePath = .ok path) (computes' : op'.effectivePath = .ok path)
    (sameArgs : op.args = op'.args) (args : List String) :
    answer host config op args = answer host config op' args := by
  cases loads : loadRoutes host config with
  | error e => simp only [answer, loads, bind, Except.bind]
  | ok loaded =>
    have blind := LoadedRoute.candidates_kindBlind (σ := Unit) loaded
    have sameArgs : (op.withArgs (args.map Value.coerce)).args =
        (op'.withArgs (args.map Value.coerce)).args := by
      simp only [Operation.args_withArgs, sameArgs]
    have same := @dispatch_of_kind Unit String (LoadedRoute.router Reply.handler loaded).relay
      _ _ _ _ blind sameArgs computes computes' (LoadedRoute.session loaded ())
    rw [answer_of_loads loads, answer_of_loads loads]
    simp only [Router.dispatch, same]

theorem compiled_of_loadRoutes {loaded : List (LoadedRoute Reply)}
    (loads : loadRoutes host config = .ok loaded) :
    ∀ l ∈ loaded, Matcher.compile l.source = .ok l.matcher := by
  obtain ⟨text, -, rest⟩ := bind_eq_ok_iff.mp loads
  obtain ⟨config, -, ends⟩ := bind_eq_ok_iff.mp rest
  exact LoadedRoute.compiled_of_loads (loads_of_loadRouter (mapError_eq_ok_iff.mp ends))

theorem answer_change_eq_error_iff {loaded : List (LoadedRoute Reply)} {path : String}
    (loads : loadRoutes host config = .ok loaded) {e : CommandError} :
    answer host config (.change path) args = .error e ↔
      ∃ cause, LoadedRoute.FailingCall loaded ()
        ((Operation.change path).withArgs (args.map Value.coerce)) cause ∧
          e = .dispatchFailed cause := by
  have compiled := compiled_of_loadRoutes loads
  have change : ((Operation.change path).withArgs (args.map Value.coerce)).kind = .change := rfl
  rw [answer_of_loads loads, mapError_eq_error_iff]
  simp only [LoadedRoute.change_eq_error_iff compiled change ()]

/-! ## The commands -/

section

variable {path : String} {bag : Bag}

theorem execute_set_of_ok (config template : String) (options : DispatchOptions)
    (given : parseData data = .ok bag) : execute host (.set config template data options) =
      dispatchOn host config (.set template bag) options := by
  simp only [execute, given, CommandM.lift_ok_bind]

theorem execute_set_of_error (config template : String) (options : DispatchOptions)
    {e : CommandError} (refused : parseData data = .error e) :
    execute host (.set config template data options) = throw e := by
  simp only [execute, refused, CommandM.lift_error_bind]

theorem set_traced_alike (host : Host) (config template : String) (data args : List String) :
    (report host (.set config template data ⟨args, true⟩)).Alike
      (report host (.set config template data ⟨args, false⟩)) := by
  cases given : parseData data with
  | error e =>
    rw [report_of_throw (execute_set_of_error config template _ given),
      report_of_throw (execute_set_of_error config template _ given)]
    exact ⟨rfl, rfl, rfl⟩
  | ok bag =>
    exact report_traced_alike (execute_set_of_ok config template _ given)
      (execute_set_of_ok config template _ given)

theorem set_prints_iff {options : DispatchOptions} {text : String} :
    (report host (.set config template data options)).Prints text ↔ ∃ bag outcome,
      parseData data = .ok bag ∧
        answer host config (.set template bag) options.args = .ok outcome ∧
        Renders outcome text := by
  cases given : parseData data with
  | error e =>
    rw [report_of_throw (execute_set_of_error config template _ given)]
    exact iff_of_false (e.not_prints text) nofun
  | ok bag =>
    rw [dispatch_prints_iff (execute_set_of_ok config template options given)]
    simp

theorem expand_prints_iff : (report host (.expand template data)).Prints path ↔
    ∃ bag, parseData data = .ok bag ∧ synthesize template bag = .ok path := by
  cases given : parseData data with
  | error e =>
    have fails : execute host (.expand template data) = throw e := by
      simp only [execute, given, CommandM.lift_error_bind]
    rw [report_of_throw fails]
    exact iff_of_false (e.not_prints path) nofun
  | ok bag =>
    cases written : synthesize template bag with
    | error e =>
      have fails : execute host (.expand template data) = throw (.badTemplate e) := by
        simp only [execute, given, written, CommandM.lift_ok_bind, Except.mapError,
          CommandM.lift_error_bind]
      rw [report_of_throw fails]
      exact iff_of_false (CommandError.not_prints _ path) (by simp [written])
    | ok path' =>
      have prints : execute host (.expand template data) = printLine path' := by
        simp only [execute, given, written, CommandM.lift_ok_bind, Except.mapError]
      rw [report_of_printLine prints, prints_iff]
      simp [written]

theorem check_succeeds_iff : (report host (.check config)).exitCode = 0 ↔
    ∃ loaded, loadRoutes host config = .ok loaded := by
  cases loads : loadRoutes host config with
  | error e =>
    have fails : execute host (.check config) = throw e := by
      simp only [execute, loads, CommandM.lift_error_bind]
    simp [report_of_throw fails, CommandError.report]
  | ok loaded =>
    have prints : execute host (.check config) =
        printLine ("Config valid (" ++ toString loaded.length ++ " routes)") := by
      simp only [execute, loads, CommandM.lift_ok_bind]
    simp [report_of_printLine prints]

end

/-- If a template expands to a path, setting it does what changing the path does.  Showing the steps
changes neither the exit code nor the output nor the complaint.  A command that exits with 1 has
printed nothing.  A change and a set print what is to be printed of the outcome that their dispatch
comes to, and only then they succeed.  Over a configuration that passes its check, a change fails
only if it calls a handler that was configured to fail, and then it does and says so. -/
theorem commands_agree (host : Host) (config template path : String) (data args : List String) :
    ((report host (.expand template data)).Prints path →
      report host (.set config template data ⟨args, false⟩) =
        report host (.change config path ⟨args, false⟩)) ∧
    (report host (.set config template data ⟨args, true⟩)).Alike
      (report host (.set config template data ⟨args, false⟩)) ∧
    (report host (.change config path ⟨args, true⟩)).Alike
      (report host (.change config path ⟨args, false⟩)) ∧
    (∀ command, (report host command).exitCode = 1 → (report host command).out = "") ∧
    (∀ text, (report host (.change config path ⟨args, false⟩)).Prints text ↔
      ∃ outcome, answer host config (.change path) args = .ok outcome ∧ Renders outcome text) ∧
    (∀ text, (report host (.set config template data ⟨args, false⟩)).Prints text ↔
      ∃ bag outcome, parseData data = .ok bag ∧
        answer host config (.set template bag) args = .ok outcome ∧ Renders outcome text) ∧
    ((report host (.check config)).exitCode = 0 →
      let change := (Operation.change path).withArgs (args.map Value.coerce)
      ∃ loaded, loadRoutes host config = .ok loaded ∧
        ((report host (.change config path ⟨args, false⟩)).exitCode ≠ 0 →
          ∃ e, LoadedRoute.FailingCall loaded () change e) ∧
        ∀ e, LoadedRoute.FailingCall loaded () change e →
          report host (.change config path ⟨args, false⟩) =
            ⟨1, "", "error: " ++ (CommandError.dispatchFailed e).message ++ "\n"⟩) := by
  refine ⟨fun expands => ?_, set_traced_alike host config template data args,
    report_traced_alike rfl rfl, fun command exits => out_of_failed exits,
    fun text => dispatch_prints_iff rfl, fun text => set_prints_iff, fun checks => ?_⟩
  · obtain ⟨bag, given, written⟩ := expand_prints_iff.mp expands
    have computes : (Operation.set template bag).effectivePath = .ok path := written
    have computes' : (Operation.change path).effectivePath = .ok path := rfl
    exact report_congr (execute_set_of_ok config template _ given) rfl
      (answer_of_path host config computes computes' rfl args)
  · have runs : execute host (.change config path ⟨args, false⟩) =
      dispatchOn host config (.change path) ⟨args, false⟩ := rfl
    obtain ⟨loaded, loads⟩ := check_succeeds_iff.mp checks
    refine ⟨loaded, loads, fun fails => ?_, fun e called => ?_⟩
    · cases answers : answer host config (.change path) args with
      | error e =>
        obtain ⟨cause, called, -⟩ := (answer_change_eq_error_iff loads).mp answers
        exact ⟨cause, called⟩
      | ok outcome =>
        obtain ⟨shown, reports, -⟩ := report_of_outcome runs answers
        exact absurd (congrArg Report.exitCode reports) fails
    · exact report_of_refusal runs ((answer_change_eq_error_iff loads).mpr ⟨e, called, rfl⟩)

def failingConfig : String :=
  "\x7b\"routes\":[\x7b\"handler\":\x7b\"type_url\":\"trail.test.v1.Fail\"," ++
    "\"config\":\x7b\"message\":\"down\"\x7d\x7d\x7d]\x7d"

theorem commands_agree_failing :
    let host : Host := .ofFiles fun _ => .ok failingConfig
    let set := Command.set "routes.json" "user/:id" ["id=ann"] ⟨["true"], false⟩
    let change := Command.change "routes.json" "user/ann/" ⟨["true"], false⟩
    (report host (.expand "user/:id" ["id=ann"])).Prints "user/ann/" ∧
      (report host (.check "routes.json")).exitCode = 0 ∧
      (report host change).exitCode = 1 ∧ (report host change).out = "" ∧
      report host set = report host change ∧
      ∃ loaded, loadRoutes host "routes.json" = .ok loaded ∧
        ∃ e, LoadedRoute.FailingCall loaded ()
          ((Operation.change "user/ann/").withArgs (["true"].map Value.coerce)) e := by
  have given : parseData ["id=ann"] = .ok ((∅ : Bag).insert "id" (.text "ann")) := by
    have split : splitPair? "id=ann" = some ("id", "ann") := by rfl
    have coerced : Value.coerce "ann" = .text "ann" := by decide
    simp only [parseData, addPairs, split, coerced]
  have written : synthesize "user/:id" ((∅ : Bag).insert "id" (.text "ann")) = .ok "user/ann/" := by
    have present : Bag.present? ((∅ : Bag).insert "id" (.text "ann")) "id" = some (.text "ann") :=
      Bag.present?_eq_some_iff.mpr ⟨Std.ExtTreeMap.getElem?_insert_self, rfl⟩
    have read : Pattern.parse "user/:id" =
        .ok [.piece (.literal "user/"), .piece (.token "id" false)] := by rfl
    rw [synthesize, Template.parse, read]
    simp only [bind, Except.bind, pure, Except.pure, Template.expand,
      Pattern.Segment.expandUntilMissed, Pattern.Segment.expand?, Pattern.Piece.expand?, present]
    rfl
  have read : Json.parse failingConfig = .ok (.object [("routes", .array [.object [("handler",
      .object [("type_url", .string "trail.test.v1.Fail"),
        ("config", .object [("message", .string "down")])])]])]) := by
    rfl
  intro host set change
  have parsed : parseConfig host (isJsonName "routes.json") failingConfig =
      .ok ⟨[⟨none, none, none, (Reply.fail "down").config⟩]⟩ := by
    have isJson : isJsonName "routes.json" = true := by decide
    simp only [parseConfig, isJson, if_true, host, Host.ofFiles, read]
    rfl
  have route : Registry.standard.loadRoute host.engine
      ⟨none, none, none, (Reply.fail "down").config⟩ = .ok ⟨none, .any, .fail "down", .any⟩ :=
    RouteConfig.loadRoute_eq_ok_iff.mpr ⟨rfl, .any rfl rfl, Reply.makes_config (by simp), rfl⟩
  let loaded : List (LoadedRoute Reply) := [⟨none, .any, .fail "down", .any⟩]
  have loads : loadRoutes host "routes.json" = .ok loaded := by
    have ends : Registry.standard.loadRouter host.engine _ = .ok loaded :=
      (loadRouter_of_few (by decide)).trans (mapM_eq_ok_iff.mpr (.cons route .nil))
    exact bind_eq_ok_iff.mpr ⟨_, rfl, bind_eq_ok_iff.mpr ⟨_, parsed, mapError_eq_ok_iff.mpr ends⟩⟩
  have expands : (report host (.expand "user/:id" ["id=ann"])).Prints "user/ann/" :=
    expand_prints_iff.mpr ⟨_, given, written⟩
  have checked : (report host (.check "routes.json")).exitCode = 0 :=
    check_succeeds_iff.mpr ⟨_, loads⟩
  have exits : (report host change).exitCode = 1 := by
    have fails : answer host "routes.json" (.change "user/ann/") ["true"] =
        .error (.dispatchFailed (.handler 0 "*" (.message "down"))) := by
      rw [answer_of_loads loads, mapError_eq_error_iff]
      refine ⟨_, ?_, rfl⟩
      simp only [Router.dispatch]
      generalize Router.relay _ = relay
      rfl
    have runs : execute host change =
      dispatchOn host "routes.json" (.change "user/ann/") ⟨["true"], false⟩ := rfl
    rw [report_of_refusal runs fails, CommandError.report]
  obtain ⟨same, -, -, silent, -, -, failing⟩ :=
    commands_agree host "routes.json" "user/:id" "user/ann/" ["id=ann"] ["true"]
  obtain ⟨loaded, loads, failing, -⟩ := failing checked
  have called := failing (by rw [exits]; decide)
  exact ⟨expands, checked, exits, silent _ exits, same expands, loaded, loads, called⟩

end CommandLine

end PathRouting
