import PathRouting.Dispatch.Route

/-!
# Simple handlers

Handlers that answer each call on their own: with their arguments, with a fixed text, with a
failure or with a rejection.  They keep no state and do not dispatch.
-/

namespace PathRouting

/-- What a simple handler does. -/
inductive Reply where
  | echo (label : String)
  /-- Goes on with a fixed text. -/
  | constant (text : String)
  | fail (message : String)
  | reject
  deriving DecidableEq

namespace Reply

/-- A label with arguments in parentheses. -/
def render (label : String) (args : List Value) : String :=
  label ++ "(" ++ ",".intercalate (args.map Value.display) ++ ")"

def answer (reply : Reply) (call : Call) : Except HandlerError (Flow String) :=
  match reply with
  | echo label => .ok (.proceed (render label call.args.positional))
  | constant text => .ok (.proceed text)
  | fail message => .error (.message message)
  | reject => .ok .reject

def handler {σ : Type} (reply : Reply) : Handler σ String :=
  fun _ call session => (reply.answer call, session)

end Reply

end PathRouting
