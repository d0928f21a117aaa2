import PathRouting.Dispatch.Session
import PathRouting.Dispatch.Trace

/-!
# Requests to a router

What a router is asked by those who share it.  No request changes which routes there are, so a
handler may make one while the dispatch that called it is under way.
-/

namespace PathRouting

inductive Request where
  | dispatch (op : Operation)
  | event (event : Event)
  | picked (op : Operation) (indices : List Nat)
  /-- Dispatch over the whole router and record every step. -/
  | traced (op : Operation)
  /-- Compile every route. -/
  | validate
  | tokens (index : Nat)
  | isCompiled (index : Nat)

/-- What answers a request; routes that are not there have no answer. -/
abbrev Request.Answer (ρ : Type) : Request → Type
  | .dispatch _ | .event _ | .picked _ _ => Except RouteError (Outcome ρ)
  | .traced _ => Except RouteError (Trace ρ)
  | .validate => Except PatternError Unit
  | .tokens _ => Option (Except PatternError (List String))
  | .isCompiled _ => Option Bool

/-- Answers requests to the router that a call came from. -/
abbrev Relay (σ ρ : Type) :=
  (request : Request) → Session σ → request.Answer ρ × Session σ

end PathRouting
