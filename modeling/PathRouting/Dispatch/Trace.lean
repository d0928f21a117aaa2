import PathRouting.Dispatch.Call

/-!
# Traces

A record of what a dispatch did: a step for each route it looked at, and how many it left out
after a rejection.
-/

namespace PathRouting

/-- What a handler asked for, without its result. -/
inductive StepFlow where
  | continued
  | rejected
  deriving DecidableEq

namespace StepFlow

def word : StepFlow → String
  | continued => "continued"
  | rejected => "rejected"

def inspect : StepFlow → String
  | continued => "Continued"
  | rejected => "Rejected"

end StepFlow

/-- A route that was looked at. -/
structure Step where
  index : Nat
  route : Option String
  pattern : String
  matched : Bool
  /-- What the handler asked for, if it ran. -/
  flow : Option StepFlow
  deriving DecidableEq

namespace Step

def result (step : Step) : String :=
  if !step.matched then "no match"
  else match step.flow with
    | some flow => flow.word
    | none => "matched"

/-- The step as a line of text. -/
def display (step : Step) : String :=
  "[" ++ toString step.index ++ "] " ++ step.pattern ++
    (match step.route with
      | some name => " (" ++ name ++ ")"
      | none => "") ++
    ": " ++ step.result

def inspect (step : Step) : String :=
  "DispatchStep \x7b index: " ++ toString step.index ++
    ", route: " ++ Text.quoteOption step.route ++
    ", pattern: " ++ Text.quote step.pattern ++
    ", matched: " ++ (if step.matched then "true" else "false") ++
    ", flow: " ++ (match step.flow with
      | some flow => "Some(" ++ flow.inspect ++ ")"
      | none => "None") ++ " \x7d"

end Step

/-- The record of a dispatch. -/
structure Trace (ρ : Type) where
  kind : OperationKind
  path : String
  outcome : Outcome ρ
  steps : List Step
  /-- The number of routes left out after a rejection. -/
  skipped : Nat
  deriving DecidableEq

namespace Trace

/-- The number of handlers that ran. -/
def invoked {ρ : Type} (trace : Trace ρ) : Nat :=
  trace.steps.countP (·.flow.isSome)

/-- The trace as lines of text, the last without an end. -/
def display (trace : Trace String) : String :=
  trace.kind.eventType ++ " " ++ trace.path ++ "\n" ++
    String.join (trace.steps.map fun step => "  " ++ step.display ++ "\n") ++
    (if 0 < trace.skipped then
      "  (" ++ toString trace.skipped ++ " route(s) skipped after reject)\n"
    else "") ++
    "=> " ++ trace.outcome.inspect

def inspect (trace : Trace String) : String :=
  "DispatchTrace \x7b kind: " ++ trace.kind.inspect ++ ", path: " ++ Text.quote trace.path ++
    ", outcome: " ++ trace.outcome.inspect ++
    ", steps: " ++ Text.bracketed (trace.steps.map Step.inspect) ++
    ", skipped: " ++ toString trace.skipped ++ " \x7d"

end Trace

end PathRouting
