import PathRouting.Match
import PathRouting.Pattern.Reading
import PathRouting.Pattern.Search
import PathRouting.Regex.Basic

/-!
# Sources and matchers

A route says which paths it takes by a source: any path, a regular expression, or a pattern that
is still to be read.  A compiled source is a matcher.
-/

namespace PathRouting

/-- Which paths a route takes. -/
inductive Source where
  | any
  | regex (r : Regex)
  | pattern (text : String)

inductive Matcher where
  | any
  | regex (r : Regex)
  | pattern (program : Pattern.Program) (tokens : List String)

namespace Source

/-- A source that is a regular expression. -/
def ofRegex (engine : Regex.Engine) (text : String) : Except PatternError Source := do
  return .regex (← Regex.compile engine text)

def text : Source → String
  | any => "*"
  | regex r => "regex(" ++ r.source ++ ")"
  | pattern text => text

end Source

namespace Matcher

def ofPattern (text : String) : Except PatternError Matcher := do
  let segments ← Pattern.parse text
  return .pattern (.compile segments) (Pattern.tokenNames segments)

def compile : Source → Except PatternError Matcher
  | .any => .ok .any
  | .regex r => .ok (.regex r)
  | .pattern text => ofPattern text

/-- The names of the captures; only patterns have names. -/
def tokens : Matcher → List String
  | pattern _ tokens => tokens
  | _ => []

def matchPath : Matcher → String → Option Match
  | any, path => some (.ofCaptures path [] [])
  | regex r, path =>
      (r.captures path).map fun (matched, captures) => .ofCaptures matched captures []
  | pattern program tokens, path =>
      (program.captures path).map fun captures => .ofCaptures path captures tokens

def isMatch (m : Matcher) (path : String) : Bool :=
  (m.matchPath path).isSome

end Matcher

end PathRouting
