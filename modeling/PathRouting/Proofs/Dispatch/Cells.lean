import PathRouting.Proofs.Dispatch.Script

/-!
# What becomes of the cells

The two relations that requests keep.  A session is later than another if its cells are valid and
what was filled there is filled with the same here: cells are written once.  Sessions are alike if
both are valid and the outside states agree, whichever cells are filled: handlers that do not ask
for the cells themselves never learn more than that.
-/

namespace PathRouting

variable {σ ρ : Type} {router : Router σ ρ}

/-! ## Later sessions -/

structure Session.Later (router : Router σ ρ) (start session : Session σ) : Prop where
  valid : session.Valid router
  keeps {cell : Nat} {compiled : Compiled} :
    start.cell? cell = some compiled → session.cell? cell = some compiled

namespace Session

variable {start session : Session σ}

theorem Valid.later (valid : session.Valid router) : Later router session session :=
  ⟨valid, id⟩

theorem Valid.withEnv (valid : session.Valid router) (env : σ) :
    Valid { session with env := env } router :=
  ⟨valid.size, valid.holds⟩

theorem Later.withEnv (later : Later router start session) (env : σ) :
    Later router start { session with env := env } :=
  ⟨later.valid.withEnv env, later.keeps⟩

theorem cell?_compile_of_some {cell other : Nat} {compiled : Compiled} (source : Source)
    (filled : session.cell? other = some compiled) :
    (session.compile cell source).2.cell? other = some compiled := by
  unfold compile
  cases holds : session.cell? cell with
  | some _ => exact filled
  | none =>
    have differ : cell ≠ other := by
      rintro rfl
      simp [holds] at filled
    exact (cell?_fill_ne _ differ).trans filled

theorem cell?_compile_ne (session : Session σ) {cell other : Nat} (source : Source)
    (differ : cell ≠ other) :
    (session.compile cell source).2.cell? other = session.cell? other := by
  unfold compile
  cases session.cell? cell with
  | some compiled => rfl
  | none => exact cell?_fill_ne _ differ

theorem Later.compile (later : Later router start session) {cell : Nat} {route : Route σ ρ}
    (found : router.routes[cell]? = some route) :
    Later router start (session.compile cell route.source).2 := by
  obtain ⟨reached, compiles, valid, -⟩ := later.valid.compile_eq found
  refine ⟨by simpa only [compiles] using valid, fun filled => ?_⟩
  exact cell?_compile_of_some route.source (later.keeps filled)

end Session

theorem Router.keeps_later (router : Router σ ρ) (allowed : Request → Prop) (start : Session σ) :
    router.Keeps allowed fun s t => s = t ∧ Session.Later router start s where
  compile found := by
    rintro s _ ⟨rfl, later⟩
    exact ⟨rfl, rfl, later.compile found⟩
  read := fun ⟨same, _⟩ => congrArg Session.env same
  write env := fun ⟨same, later⟩ => ⟨by rw [same], later.withEnv env⟩
  look _ _ := fun _ _ ⟨same, _⟩ => congrArg Session.cells same

/-- Requests fill cells that were empty and do nothing else to them. -/
theorem Router.Within.later {allowed : Request → Prop} (within : router.Within allowed)
    {request : Request} (granted : allowed request) (depth : Nat) {session : Session σ}
    (valid : session.Valid router) :
    Session.Later router session (router.serveWithin depth request session).2 :=
  (within.serveWithin (router.keeps_later allowed session) depth request granted
    ⟨rfl, valid.later⟩).2.2

/-- The handler may do anything in a session but leave it invalid. -/
def Handler.KeepsValid (handler : Handler σ ρ) (router : Router σ ρ) (relay : Relay σ ρ) : Prop :=
  ∀ (call : Call) {session : Session σ}, session.Valid router →
    (handler relay call session).2.Valid router

namespace Router

def KeepsValid (router : Router σ ρ) (relay : Relay σ ρ) : Prop :=
  ∀ route ∈ router.routes, route.handler.KeepsValid router relay

theorem Within.keepsValid {allowed : Request → Prop} (within : router.Within allowed)
    (depth : Nat) : router.KeepsValid (router.serveWithin depth) := by
  intro route member call session valid
  obtain ⟨script, scripted, follows⟩ := within route member
  have keeps := router.keeps_later allowed session
  rw [follows]
  exact (Script.run_inStep keeps (within.serveWithin keeps depth) (scripted call)
    ⟨rfl, valid.later⟩).2.2.valid

end Router

/-! ## Handlers that keep sessions valid, or all cells -/

theorem Script.Within.cells_run {script : Script σ ρ} (silent : script.Within fun _ => False)
    (relay : Relay σ ρ) (session : Session σ) :
    (script.run relay session).2.cells = session.cells := by
  induction silent generalizing session with
  | done answer => rfl
  | read _ ih => exact ih session.env session
  | write env _ ih => exact ih { session with env := env }
  | ask granted => exact granted.elim

namespace Handler

variable {handler : Handler σ ρ}

/-- The handler leaves all cells as they are. -/
def KeepsCells (handler : Handler σ ρ) (relay : Relay σ ρ) : Prop :=
  ∀ call session, (handler relay call session).2.cells = session.cells

theorem KeepsCells.keepsValid {relay : Relay σ ρ} (keeps : handler.KeepsCells relay)
    (router : Router σ ρ) : handler.KeepsValid router relay := by
  intro call session valid
  have same := keeps call session
  refine ⟨by rw [same, valid.size], fun found filled => valid.holds found ?_⟩
  rwa [Session.cell?, same] at filled

theorem Within.keepsCells (silent : handler.Within fun _ => False) (relay : Relay σ ρ) :
    handler.KeepsCells relay := by
  obtain ⟨script, within, rfl⟩ := silent
  exact fun call => (within call).cells_run relay

end Handler

theorem Router.KeepsValid.of_offers {relay : Relay σ ρ} {candidates : List (Candidate σ ρ)}
    (keeps : router.KeepsValid relay) (offers : router.Offers candidates) :
    ∀ c ∈ candidates, c.route.handler.KeepsValid router relay :=
  fun c member => keeps c.route (Array.mem_of_getElem? (offers c member))

/-! ## Sessions that handlers cannot tell apart -/

structure Session.Alike (router : Router σ ρ) (s t : Session σ) : Prop where
  left : s.Valid router
  right : t.Valid router
  env : s.env = t.env

theorem Router.keeps_alike (router : Router σ ρ) :
    router.Keeps (¬ ·.Looks) (Session.Alike router) where
  compile found s t alike := by
    obtain ⟨s', left, valid, env⟩ := alike.left.compile_eq found
    obtain ⟨t', right, valid', env'⟩ := alike.right.compile_eq found
    simp only [left, right]
    exact ⟨trivial, valid, valid', env.trans (alike.env.trans env'.symm)⟩
  read alike := alike.env
  write env alike := ⟨alike.left.withEnv env, alike.right.withEnv env, rfl⟩
  look blind looks := absurd looks blind

/-- Which cells are filled shows neither in the answer to a request nor in the outside state. -/
theorem Router.Within.alike (blind : router.Blind) {request : Request} (hidden : ¬ request.Looks)
    (depth : Nat) {s t : Session σ} (alike : Session.Alike router s t) :
    (router.serveWithin depth request s).1 = (router.serveWithin depth request t).1 ∧
      Session.Alike router (router.serveWithin depth request s).2
        (router.serveWithin depth request t).2 :=
  blind.serveWithin router.keeps_alike depth request hidden alike

end PathRouting
