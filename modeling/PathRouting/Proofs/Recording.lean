import PathRouting.Proofs.Dispatch.Visits

/-!
# Recorded handlers

In a router some of whose handlers are recorded, each recording lists the calls of its handlers:
once each, in the order in which they begin, however the calls and the dispatches end.  What the
owner of the router sees is what the same router without recordings shows.
-/

namespace PathRouting

variable {ρ : Type}

/-! ## Routers with recorded handlers -/

/-- The script over a journal whose notes it neither sees nor changes. -/
def Script.aside : Script (Array Call) ρ → Script Journal ρ
  | done answer => done answer
  | read next => read fun journal => (next journal.calls).aside
  | write calls next => read fun journal => write { journal with calls := calls } next.aside
  | ask request next => ask request fun answer => (next answer).aside

/-- A route of a router with recordings. -/
structure Post (ρ : Type) where
  /-- The route with its handler unrecorded. -/
  bare : Route Journal ρ
  script : Call → Script (Array Call) ρ
  follows : bare.handler = fun relay call => (script call).aside.run relay
  /-- Where calls are noted, if they are.  Handlers with one recording share it. -/
  recording : Option Nat

namespace Post

def route (post : Post ρ) : Route Journal ρ :=
  match post.recording with
  | none => post.bare
  | some recording => { post.bare with handler := .recorded recording post.bare.handler }

/-- The journal once a call is noted where the post wants it. -/
def note (post : Post ρ) (call : Call) (journal : Journal) : Journal :=
  match post.recording with
  | none => journal
  | some recording => journal.note recording call.note

/-- The script of the handler as it stands in the router: a call is noted before anything else. -/
def act (post : Post ρ) (call : Call) : Script Journal ρ :=
  .read fun journal => .write (post.note call journal) (post.script call).aside

def router (posts : Array (Post ρ)) : Router Journal ρ :=
  ⟨posts.map (·.route)⟩

/-- The router without its recordings. -/
def bareRouter (posts : Array (Post ρ)) : Router Journal ρ :=
  ⟨posts.map (·.bare)⟩

/-- What a recording says of visits: the position and the path of each call that it is about. -/
def entries (posts : Array (Post ρ)) (recording : Nat) (visits : List (Visit Journal)) :
    List String :=
  (visits.filter fun visit => posts[visit.cell]?.bind (·.recording) = some recording).map
    fun visit => toString visit.call.index ++ ":" ++ visit.call.path

def ofReply (name : Option String) (source : Source) (reply : Reply) (recording : Option Nat) :
    Post String where
  bare := ⟨name, source, reply.handler⟩
  script call := .done (reply.answer call)
  follows := rfl
  recording := recording

example (name : Option String) (source : Source) (reply : Reply) (recording : Nat) :
    (ofReply name source reply (some recording)).route =
      ⟨name, source, .recorded recording reply.handler⟩ := rfl

/-- A nesting handler keeps no state, so it does not see the notes. -/
def ofNested (name : Option String) (source : Source) (label kind start : String)
    (recording : Option Nat) : Post String where
  bare := ⟨name, source, .nested label kind start⟩
  script := Script.nested label kind start
  follows := by
    funext relay call session
    simp only [Handler.nested, Script.nested, Script.aside, Script.run]
    generalize relay (.event (Handler.nestedEvent kind start call)) session = answered
    obtain ⟨_ | _, _⟩ := answered <;> rfl
  recording := recording

@[simp] theorem name_route (post : Post ρ) : post.route.name = post.bare.name := by
  unfold route
  split <;> rfl

@[simp] theorem source_route (post : Post ρ) : post.route.source = post.bare.source := by
  unfold route
  split <;> rfl

@[simp] theorem calls_note (post : Post ρ) (call : Call) (journal : Journal) :
    (post.note call journal).calls = journal.calls := by
  unfold note
  split <;> rfl

theorem handler_route (post : Post ρ) :
    post.route.handler = fun relay call => (post.act call).run relay := by
  unfold route act note
  cases post.recording with
  | none => exact post.follows
  | some recording =>
    rw [post.follows]
    rfl

theorem follows_router (posts : Array (Post ρ)) : (router posts).Follows (posts.map act) := by
  intro cell route found
  simp only [router, Array.getElem?_map] at found
  obtain ⟨post, here, rfl⟩ := Option.map_eq_some_iff.mp found
  exact ⟨post.act, by rw [Array.getElem?_map, here, Option.map_some], post.handler_route⟩

end Post

/-! ## What is noted -/

/-- The journal afterwards has the entries for these visits behind what was noted before. -/
def Noted (posts : Array (Post ρ)) (before : Journal) (visits : List (Visit Journal))
    (after : Journal) : Prop :=
  ∀ recording, after.notes[recording]? =
    before.notes[recording]?.map (· ++ (Post.entries posts recording visits).toArray)

namespace Noted

variable {posts : Array (Post ρ)} {before middle after : Journal}
  {visits more : List (Visit Journal)} {relay : Relay Journal ρ}
  {inner : Request → Session Journal → List (Visit Journal)}

theorem of_notes (same : after.notes = before.notes) : Noted posts before [] after := by
  intro recording
  rw [same]
  simp [Post.entries]

theorem append (first : Noted posts before visits middle) (rest : Noted posts middle more after) :
    Noted posts before (visits ++ more) after := by
  intro recording
  rw [rest recording, first recording, Option.map_map]
  simp [Post.entries, Function.comp_def]

theorem of_aside (relays : ∀ request session,
      Noted posts session.env (inner request session) (relay request session).2.env)
    (script : Script (Array Call) ρ) (session : Session Journal) :
    Noted posts session.env
      ((script.aside.requests relay session).flatMap fun (request, session) =>
        inner request session)
      (script.aside.run relay session).2.env := by
  induction script generalizing session with
  | done => exact of_notes rfl
  | read next ih => exact ih session.env.calls session
  | write calls _ ih => exact ih _
  | ask request next ih => exact (relays request session).append (ih _ _)

theorem of_visit {visit : Visit Journal} {post : Post ρ}
    (found : posts[visit.cell]? = some post) :
    Noted posts visit.session.env [visit] (post.note visit.call visit.session.env) := by
  intro recording
  unfold Post.note
  cases noted : post.recording with
  | none => simp [Post.entries, found, noted]
  | some other =>
    by_cases same : other = recording
    · simp [Post.entries, found, noted, same, Journal.note, Call.note, Array.getElem?_modify]
    · simp [Post.entries, found, noted, same, Journal.note, Array.getElem?_modify]

end Noted

theorem Post.tallies (posts : Array (Post ρ)) :
    (router posts).Tallies (posts.map act) (Noted posts) where
  nothing env := .of_notes rfl
  append := Noted.append
  call visit route found relays := by
    simp only [router, Array.getElem?_map] at found
    obtain ⟨post, here, rfl⟩ := Option.map_eq_some_iff.mp found
    rw [Visit.whole, Array.getElem?_map, here, handler_route, ← List.singleton_append]
    exact (Noted.of_visit here).append (.of_aside relays (post.script visit.call) _)

/-! ## The router without recordings -/

/-- The sessions differ in nothing but their notes. -/
structure Session.BesideNotes (s t : Session Journal) : Prop where
  cells : s.cells = t.cells
  calls : s.env.calls = t.env.calls

theorem Session.BesideNotes.compile (cell : Nat) (source : Source) :
    InStep BesideNotes (·.compile cell source) (·.compile cell source) := by
  intro s t same
  have cell? : s.cell? cell = t.cell? cell := by simp only [Session.cell?, same.cells]
  simp only [Session.compile, cell?]
  cases t.cell? cell with
  | some compiled => exact ⟨rfl, same⟩
  | none => exact ⟨rfl, by simp only [Session.fill, same.cells], same.calls⟩

theorem Script.aside_inStep {relay relay' : Relay Journal ρ}
    (relays : ∀ request, InStep Session.BesideNotes (relay request) (relay' request))
    (script : Script (Array Call) ρ) :
    InStep Session.BesideNotes (script.aside.run relay) (script.aside.run relay') := by
  induction script with
  | done answer => exact .unchanged _ answer
  | read next ih =>
    intro s t same
    simp only [aside, run, same.calls]
    exact ih t.env.calls same
  | write calls _ ih => exact fun s t same => ih ⟨same.cells, rfl⟩
  | ask request next ih =>
    intro s t same
    obtain ⟨answer, after⟩ := relays request same
    simp only [aside, run, answer]
    exact ih _ after

namespace Post

theorem paired (posts : Array (Post ρ)) {relay relay' : Relay Journal ρ}
    (relays : ∀ request, InStep Session.BesideNotes (relay request) (relay' request)) :
    (router posts).Paired Session.BesideNotes relay relay' (bareRouter posts) where
  size := by simp [router, bareRouter]
  candidate {cell route route'} found found' := by
    simp only [router, bareRouter, Array.getElem?_map] at found found'
    obtain ⟨post, here, rfl⟩ := Option.map_eq_some_iff.mp found
    obtain ⟨post', here', rfl⟩ := Option.map_eq_some_iff.mp found'
    obtain rfl := Option.some.inj (here.symm.trans here')
    refine ⟨rfl, post.name_route, post.source_route, ?_, fun call s t same => ?_⟩
    · rw [post.source_route]
      exact Session.BesideNotes.compile cell post.bare.source
    · rw [post.handler_route, post.follows]
      have calls := (post.calls_note call s.env).trans same.calls
      exact Script.aside_inStep relays (post.script call) ⟨same.cells, calls⟩

theorem serveWithin_inStep (posts : Array (Post ρ)) (depth : Nat) :
    ∀ request, InStep Session.BesideNotes ((router posts).serveWithin depth request)
      ((bareRouter posts).serveWithin depth request) := by
  have looks (request : Request) (_ : request.Looks) ⦃s t : Session Journal⦄
      (same : s.BesideNotes t) : s.cells = t.cells := same.cells
  induction depth with
  | zero =>
    let idle : Relay Journal ρ := fun request session =>
      (((router posts).decline request ((router posts).session .empty)).1, session)
    have idles (request : Request) : InStep Session.BesideNotes (idle request) (idle request) :=
      .unchanged _ _
    exact fun request => (paired posts idles).decline (looks request)
  | succ depth ih => exact fun request => (paired posts ih).serve (looks request)

theorem run_inStep (posts : Array (Post ρ)) (depth : Nat) (requests : List Request)
    {s t : Session Journal} (same : s.BesideNotes t) :
    (Service.run depth ⟨router posts, s⟩ (requests.map .ask)).1 =
        (Service.run depth ⟨bareRouter posts, t⟩ (requests.map .ask)).1 ∧
      (Service.run depth ⟨router posts, s⟩ (requests.map .ask)).2.session.BesideNotes
        (Service.run depth ⟨bareRouter posts, t⟩ (requests.map .ask)).2.session := by
  induction requests generalizing s t with
  | nil => exact ⟨rfl, same⟩
  | cons request requests ih =>
    obtain ⟨answer, after⟩ := serveWithin_inStep posts (depth + 1) request same
    have calls : (router posts).calls ((router posts).serveWithin depth) request s =
        (bareRouter posts).calls ((bareRouter posts).serveWithin depth) request t :=
      (paired posts (serveWithin_inStep posts depth)).calls_eq (fun _ _ _ same => same.cells) same
    have report : Report.answered request ((router posts).serveWithin (depth + 1) request s).1
          ((router posts).calls ((router posts).serveWithin depth) request s) =
        .answered request ((bareRouter posts).serveWithin (depth + 1) request t).1
          ((bareRouter posts).calls ((bareRouter posts).serveWithin depth) request t) := by
      rw [answer, calls]
    obtain ⟨reports, ends⟩ := ih after
    exact ⟨congrArg₂ List.cons report reports, ends⟩

end Post

/-- After any requests to a router with recordings, each recording has one entry more for every
visit that they lead to and that it is about, in the order of the visits, and nothing else.  Every
dispatch on the way visits the routes that it looks at and that match, at their positions among
those it goes through.  Answers, calls and cells are those of the router without recordings. -/
theorem recordings_list_visits (posts : Array (Post ρ)) (depth : Nat) (requests : List Request)
    {session : Session Journal} (valid : session.Valid (Post.router posts)) :
    let service : Service Journal ρ := ⟨Post.router posts, session⟩
    let scripts := posts.map Post.act
    let ran := service.run depth (requests.map .ask)
    let bare := Service.run depth ⟨Post.bareRouter posts, session⟩ (requests.map .ask)
    (∀ recording, ran.2.session.env.notes[recording]? = session.env.notes[recording]?.map
      (· ++ (Post.entries posts recording (service.visits scripts depth requests)).toArray)) ∧
    (∀ level request reached, service.Makes scripts depth requests (level + 1) request reached →
      ∀ op candidates, service.router.dispatched? request = some (op, candidates) →
        Visits (service.router.serveWithin level) op candidates reached
          ((service.router.visited (service.router.serveWithin level) request reached).map
            fun visit => (visit.cell, visit.call))) ∧
    ran.1 = bare.1 ∧ ran.2.session.cells = bare.2.session.cells ∧
    ran.2.session.env.calls = bare.2.session.env.calls := by
  intro service scripts ran bare
  have noted : Noted posts session.env (service.visits scripts depth requests)
      ran.2.session.env := Service.run_tallied (Post.tallies posts) depth requests
  have same : session.BesideNotes session := ⟨rfl, rfl⟩
  obtain ⟨reports, after⟩ := Post.run_inStep posts depth requests same
  refine ⟨noted, fun level request reached makes op candidates dispatches => ?_, reports,
    after.cells, after.calls⟩
  exact makes.visits (Post.follows_router posts) valid dispatches

theorem recordings_list_visits_mixed :
    let posts : Array (Post String) :=
      #[.ofReply (some "item") (.pattern "item/:id") (.echo "item") (some 0),
        .ofNested none (.pattern "again/:id") "again" "route/change" "item/" none,
        .ofReply none .any (.fail "late") (some 0),
        .ofReply none (.pattern "broken(") .reject (some 1)]
    let router := Post.router posts
    let session := router.session ⟨#[], #[#["earlier"], #[]]⟩
    let again := Operation.change "again/7"
    let requests := [.traced again, .picked (.change "item/8") [0, 0, 3, 2]]
    let ran := Service.run 1 ⟨router, session⟩ (requests.map .ask)
    session.Valid router ∧
      ran.2.session.env.notes[0]? =
        some #["earlier", "0:item/7", "2:item/7", "0:item/8", "1:item/8"] ∧
      ran.1 = (Service.run 1 ⟨Post.bareRouter posts, session⟩ (requests.map .ask)).1 ∧
      Visits (router.serveWithin 1) again router.candidates session
        ((router.visited (router.serveWithin 1) (.traced again) session).map
          fun visit => (visit.cell, visit.call)) := by
  intro posts router session again requests ran
  have valid : session.Valid router := router.valid_session _
  obtain ⟨noted, visits, reports, -⟩ := recordings_list_visits posts 1 requests valid
  have listed : Post.entries posts 0
      (Service.visits (posts.map Post.act) 1 ⟨router, session⟩ requests) =
        ["0:item/7", "2:item/7", "0:item/8", "1:item/8"] := by
    decide +kernel
  refine ⟨valid, ?_, reports, visits 1 _ _ (.owner List.mem_cons_self) again _ rfl⟩
  rw [noted 0, listed]
  rfl

end PathRouting
