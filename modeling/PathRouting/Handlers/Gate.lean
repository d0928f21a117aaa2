import PathRouting.Handlers.Journal

/-!
# Gates and nested dispatches

A gate rejects a call whose first argument is false.  A nesting handler dispatches again on the
router that called it.
-/

namespace PathRouting.Handler

variable {σ : Type}

/-- Rejects if the first argument is false, else echoes. -/
def gate (label : String) : Handler σ String :=
  fun relay call session =>
    match call.args.positional with
    | .bool false :: _ => (.ok .reject, session)
    | _ => (Reply.echo label).handler relay call session

def nestedResult (label : String) : Outcome String → String
  | .handled result => label ++ "[" ++ result ++ "]"
  | .noMatch => label ++ ":no_match"
  | .rejected => label ++ ":rejected"

/-- The event that a nesting handler dispatches: its path begins with `start` and ends with the
first argument. -/
def nestedEvent (kind start : String) (call : Call) : Event where
  kind := kind
  path := start ++ (call.args.positional.head?.map Value.display).getD ""
  data := ∅
  args := call.args.extra

/-- Dispatches an event on the same router and goes on with its outcome. -/
def nested (label kind start : String) : Handler σ String :=
  fun relay call session =>
    match relay (.event (nestedEvent kind start call)) session with
    | (.ok outcome, session) => (.ok (.proceed (nestedResult label outcome)), session)
    | (.error e, session) => (.error (.dispatch e), session)

end PathRouting.Handler
