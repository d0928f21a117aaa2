import PathRouting.Proofs.Dispatch.Service

/-!
# The cells are a cache

Whatever is done with a router, and however its handlers ask it again while it dispatches, a cell
is empty or holds what compiling the source of its route gives, and what it holds it keeps.  Nobody
can tell how the cells are filled from what the router answers and whom it calls.
-/

namespace PathRouting

variable {σ ρ : Type}

/-- Cells are written once, with what compiling gives, and do not show in any report: from every
state that a fresh router leads to, actions have the same reports and the same effect outside as
with any other valid cells. -/
theorem cells_written_once_and_hidden {router : Router σ ρ} (env : σ) (blind : router.Blind)
    {state : Service σ ρ} (reached : (router.fresh env).Leads state) :
    state.session.Valid state.router ∧
    (∀ later, state.Leads later → ∀ cell compiled,
      state.session.cell? cell = some compiled → later.session.cell? cell = some compiled) ∧
    ∀ cells, Session.Valid ⟨cells, state.session.env⟩ state.router →
      ∀ depth (actions : List (Action σ ρ)), (∀ action ∈ actions, action.Blind) →
        let other : Service σ ρ := ⟨state.router, cells, state.session.env⟩
        state.Leads (state.run depth actions).2 ∧
        (state.run depth actions).1 = (other.run depth actions).1 ∧
        (state.run depth actions).2.router = (other.run depth actions).2.router ∧
        (state.run depth actions).2.session.env = (other.run depth actions).2.session.env := by
  have sound := reached.sound blind (router.valid_session env)
  refine ⟨sound.valid, fun later leads _ _ filled => ?_, fun cells valid depth actions hidden => ?_⟩
  · exact (leads.sound sound.blind sound.valid).keeps filled
  · have alike : state.Alike ⟨state.router, cells, state.session.env⟩ :=
      ⟨rfl, sound.valid, valid, rfl⟩
    obtain ⟨reports, after⟩ := alike.run depth sound.blind hidden
    exact ⟨Service.Leads.here.run depth hidden, reports, after.router, after.session.env⟩

theorem cells_written_once_and_hidden_nested :
    let router : Router Unit String :=
      ⟨#[⟨some "outer", .pattern "outer/:id", .nested "outer" "route/change" "inner/"⟩,
        ⟨none, .pattern "inner/:id", (Reply.echo "inner").handler⟩,
        ⟨none, .pattern "broken(", Reply.reject.handler⟩]⟩
    let used : Service Unit String :=
      ⟨router, (router.serveWithin 3 (.dispatch (.change "outer/9")) (router.session ())).2⟩
    let actions : List (Action Unit String) :=
      [.ask (.traced (.change "inner/7")), .push ⟨none, .any, (Reply.constant "any").handler⟩,
        .ask (.picked (.change "outer/9") [0, 3]), .ask .validate, .ask (.tokens 1)]
    router.Blind ∧ (router.fresh ()).Leads used ∧ used.session.Valid router ∧
      (used.run 5 actions).1 = ((router.fresh ()).run 5 actions).1 := by
  intro router used actions
  have blind : router.Blind := by
    intro route member
    simp only [router, List.mem_toArray, List.mem_cons, List.not_mem_nil, or_false] at member
    rcases member with rfl | rfl | rfl
    · exact Handler.nested_within _ _ _ fun _ => id
    · exact Reply.handler_within _ _
    · exact Reply.handler_within _ _
  have hidden : ∀ action ∈ actions, action.Blind := by
    intro action member
    simp only [actions, List.mem_cons, List.not_mem_nil, or_false] at member
    rcases member with rfl | rfl | rfl | rfl | rfl
    · exact id
    · exact Reply.handler_within _ _
    · exact id
    · exact id
    · exact id
  have reached : (router.fresh ()).Leads used := Service.Leads.here.asked 3 _
  obtain ⟨valid, -, same⟩ := cells_written_once_and_hidden () blind reached
  exact ⟨blind, reached, valid, (same _ (router.valid_session ()) 5 actions hidden).2.1⟩

end PathRouting
