import PathRouting.Dispatch.Basic
import PathRouting.Handlers.Reply

/-!
# Fixtures

A fixture describes a router and cases to dispatch on it, each with the result that is expected.
All cases of a fixture run on one router, one after the other.
-/

namespace PathRouting.Fixture

/-! ## Expectations -/

inductive Expectation where
  | noMatch
  | handled (result : String)
  | rejected
  | error (kind : String)
  deriving DecidableEq

/-- The short name of an error's kind. -/
def errorKind : RouteError → String
  | .unsupportedOperation _ => "unsupported_operation"
  | .pattern _ => "pattern"
  | .handler _ _ _ => "handler"
  | .invalidConfig _ => "invalid_config"
  | .unknownTypeUrl _ _ => "unknown_type_url"
  | .tooManyRoutes _ => "too_many_routes"
  | .nestedTooDeep _ => "nested_too_deep"

namespace Expectation

/-- The result of a dispatch as a fixture would state it. -/
def ofResult : Except RouteError (Outcome String) → Expectation
  | .ok .noMatch => noMatch
  | .ok (.handled result) => handled result
  | .ok .rejected => rejected
  | .error e => error (errorKind e)

/-- The result with its text quoted. -/
def inspect : Expectation → String
  | noMatch => "NoMatch"
  | handled result => "Handled(" ++ Text.quote result ++ ")"
  | rejected => "Rejected"
  | error kind => "Error(" ++ Text.quote kind ++ ")"

end Expectation

/-! ## Routes and cases -/

structure RouteSpec where
  name : Option String
  pattern : Option String
  regex : Option String
  reply : Reply

namespace RouteSpec

def build {σ : Type} (engine : Regex.Engine) (spec : RouteSpec) :
    Except RouteError (Route σ String) := do
  let source : Source ← match spec.pattern, spec.regex with
    | some _, some _ => throw (.invalidConfig "route sets both pattern and regex")
    | some pattern, none => pure (.pattern pattern)
    | none, some regex => (Source.ofRegex engine regex).mapError .pattern
    | none, none => pure .any
  return ⟨spec.name, source, spec.reply.handler⟩

end RouteSpec

/-- A case: an event and the result that is expected. -/
structure Case where
  name : String
  event : Event
  expected : Expectation

/-- What came of a case. -/
structure CaseResult where
  name : String
  expected : Expectation
  actual : Expectation
  deriving DecidableEq

namespace CaseResult

def passed (result : CaseResult) : Bool :=
  result.actual == result.expected

def complaint (fixture : String) (result : CaseResult) : String :=
  "Fixture '" ++ fixture ++ "' case '" ++ result.name ++ "' failed: expected " ++
    result.expected.inspect ++ ", got " ++ result.actual.inspect

end CaseResult

def runCases {σ : Type} (router : Router σ String) : Session σ → List Case → List CaseResult
  | _, [] => []
  | session, c :: cases =>
      let (result, session) := router.dispatchEvent c.event session
      ⟨c.name, c.expected, .ofResult result⟩ :: runCases router session cases

def firstComplaint? (fixture : String) (results : List CaseResult) : Option String :=
  (results.find? (!·.passed)).map (·.complaint fixture)

end Fixture

/-- A fixture whose routes are built one by one. -/
structure Fixture where
  name : String
  description : String
  routes : List Fixture.RouteSpec
  cases : List Fixture.Case

namespace Fixture

def router (engine : Regex.Engine) (fixture : Fixture) :
    Except RouteError (Router Unit String) := do
  return ⟨(← fixture.routes.mapM (RouteSpec.build engine)).toArray⟩

def run (engine : Regex.Engine) (fixture : Fixture) : Except RouteError (List CaseResult) := do
  let router ← fixture.router engine
  return runCases router (router.session ()) fixture.cases

end PathRouting.Fixture
