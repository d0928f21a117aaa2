import PathRouting.Pattern.Error

/-!
# Errors of routing

Why a dispatch or the loading of a router fails.  A handler fails with a message of its own or
with the error of a dispatch that it made; the chain of sources leads from an error to the cause
of it.
-/

namespace PathRouting

mutual

/-- Why routing fails. -/
inductive RouteError where
  /-- An event of an unknown kind. -/
  | unsupportedOperation (kind : String)
  | pattern (e : PatternError)
  | handler (index : Nat) (route : String) (cause : HandlerError)
  | invalidConfig (reason : String)
  /-- A handler type that is not registered. -/
  | unknownTypeUrl (typeUrl : String) (available : List String)
  | tooManyRoutes (count : Nat)
  /-- Dispatches inside handlers inside dispatches, without an end. -/
  | nestedTooDeep (limit : Nat)
  deriving DecidableEq

/-- Why a handler fails. -/
inductive HandlerError where
  | message (text : String)
  | dispatch (e : RouteError)
  deriving DecidableEq

end

namespace RouteError

/-- The most routes a configuration may have. -/
def maxRoutes : Nat := 1024

def availableText : List String → String
  | [] => " — no handler types are registered"
  | available => " — registered: " ++ ", ".intercalate available

def message : RouteError → String
  | unsupportedOperation kind =>
      "unsupported operation \"" ++ kind ++ "\" — expected \"route/change\" or \"route/set\""
  | pattern e => e.message
  | handler index route _ => "handler for route " ++ toString index ++ " (" ++ route ++ ") failed"
  | invalidConfig reason => "invalid config: " ++ reason
  | unknownTypeUrl typeUrl available =>
      "unknown handler type URL \"" ++ typeUrl ++ "\"" ++ availableText available
  | tooManyRoutes count =>
      PatternError.overLimit ("config has " ++ toString count ++ " routes") maxRoutes
  | nestedTooDeep limit => PatternError.overLimit "dispatches are nested without an end" limit

end RouteError

mutual

/-- The messages of the causes of an error, the nearest first.  Only the failure of a handler has
a cause. -/
def RouteError.sources : RouteError → List String
  | .handler _ _ cause => cause.chain
  | _ => []

/-- The message of a handler's failure and those of its causes. -/
def HandlerError.chain : HandlerError → List String
  | .message text => [text]
  | .dispatch e => e.message :: e.sources

end

end PathRouting
