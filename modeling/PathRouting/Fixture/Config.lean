import PathRouting.Fixture.Basic
import PathRouting.Handlers.Standard

/-!
# Fixtures of configurations

A fixture that holds the configuration of a router.  The configuration is decoded and loaded when
the fixture runs.
-/

namespace PathRouting

/-- A fixture whose router is loaded from a configuration. -/
structure ConfigFixture where
  name : String
  description : String
  config : Json
  cases : List Fixture.Case
  /-- The kind of error that decoding or loading is expected to end with. -/
  expectError : Option String

namespace ConfigFixture

def decodeErrorKind : String := "parse"

/-- The results of the cases, or the kind of the error that kept them from running. -/
def run (engine : Regex.Engine) (fixture : ConfigFixture) :
    Except String (List Fixture.CaseResult) :=
  match RouterConfig.decode .strict fixture.config with
  | .error _ => .error decodeErrorKind
  | .ok config =>
      match Registry.standard.loadRouter engine config with
      | .error e => .error (Fixture.errorKind e)
      | .ok loaded =>
          .ok (Fixture.runCases (LoadedRoute.router Reply.handler loaded)
            (LoadedRoute.session loaded ()) fixture.cases)

end ConfigFixture

end PathRouting
