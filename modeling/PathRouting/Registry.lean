import Std.Data.ExtTreeMap
import PathRouting.Config.Route
import PathRouting.Dispatch.Route

/-!
# Registries of handler types

A registry finds the type of a handler by its URL.  Loading a configuration makes every handler
and compiles every source, so what can be wrong with a configuration is noticed at once.  Per
route, the first of these wins: two sources, a bad regular expression, an unknown handler type, a
bad handler configuration, a bad pattern.
-/

namespace PathRouting

/-! ## Handler types -/

/-- Types of handlers that can be made from a configuration. -/
class HandlerTypes (τ : Type) (η : outParam Type) where
  /-- What a handler of the type is configured with. -/
  Config : τ → Type
  /-- Reads a configuration, or says why it is none. -/
  decode (type : τ) : Json → Except String (Config type)
  /-- Makes the handler, or refuses what it is configured with. -/
  make (type : τ) : Config type → Except RouteError η

/-- Makes a handler from a document.  The complaint about a document that is no configuration tells
the URL. -/
def HandlerTypes.build {τ η : Type} [HandlerTypes τ η] (type : τ) (typeUrl : String)
    (config : Json) : Except RouteError η := do
  let config ← (decode type config).mapError fun reason =>
    .invalidConfig (typeUrl ++ ": " ++ reason)
  make type config

/-! ## Registrations -/

/-- Handler types by URL. -/
structure Registry (τ : Type) where
  types : Std.ExtTreeMap String τ

namespace Registry

variable {τ η : Type}

/-- The registry of some registrations; of those with one URL the last counts. -/
def ofList (registrations : List (τ × String)) : Registry τ :=
  ⟨registrations.foldl (fun types (type, typeUrl) => types.insert typeUrl type) ∅⟩

/-- The registered URLs in byte order. -/
def typeUrls (registry : Registry τ) : List String :=
  registry.types.keys

def size (registry : Registry τ) : Nat :=
  registry.types.size

def isEmpty (registry : Registry τ) : Bool :=
  registry.types.isEmpty

def contains (registry : Registry τ) (typeUrl : String) : Bool :=
  registry.types.contains typeUrl

def inspect (registry : Registry τ) : String :=
  "HandlerRegistry \x7b type_urls: " ++
    Text.bracketed (registry.typeUrls.map Text.quote) ++ " \x7d"

def resolve [HandlerTypes τ η] (registry : Registry τ) (config : HandlerConfig) :
    Except RouteError η :=
  match registry.types[config.typeUrl]? with
  | some type => HandlerTypes.build type config.typeUrl config.config
  | none => .error (.unknownTypeUrl config.typeUrl registry.typeUrls)

end Registry

/-! ## Loading -/

namespace RouteConfig

def source (engine : Regex.Engine) (config : RouteConfig) : Except RouteError Source :=
  match config.pattern, config.regex with
  | some _, some _ =>
      .error (.invalidConfig ("route " ++ config.name.getD "<unnamed>" ++
        " sets both `pattern` and `regex` — pick one"))
  | some pattern, none => .ok (.pattern pattern)
  | none, some regex => (Source.ofRegex engine regex).mapError .pattern
  | none, none => .ok .any

end RouteConfig

/-- A route that was loaded, with its compiled source. -/
structure LoadedRoute (η : Type) where
  name : Option String
  source : Source
  handler : η
  matcher : Matcher

namespace LoadedRoute

variable {η σ ρ : Type}

/-- The route, with what its handler does when it is called. -/
def route (act : η → Handler σ ρ) (loaded : LoadedRoute η) : Route σ ρ :=
  ⟨loaded.name, loaded.source, act loaded.handler⟩

def router (act : η → Handler σ ρ) (loaded : List (LoadedRoute η)) : Router σ ρ :=
  ⟨(loaded.map (route act)).toArray⟩

def session (loaded : List (LoadedRoute η)) (env : σ) : Session σ :=
  ⟨(loaded.map fun l => some (.ok l.matcher)).toArray, env⟩

end LoadedRoute

namespace Registry

variable {τ η : Type} [HandlerTypes τ η]

def loadRoute (registry : Registry τ) (engine : Regex.Engine) (config : RouteConfig) :
    Except RouteError (LoadedRoute η) := do
  let source ← config.source engine
  let handler ← registry.resolve config.handler
  let matcher ← (Matcher.compile source).mapError .pattern
  return ⟨config.name, source, handler, matcher⟩

def loadRouter (registry : Registry τ) (engine : Regex.Engine) (config : RouterConfig) :
    Except RouteError (List (LoadedRoute η)) :=
  if RouteError.maxRoutes < config.routes.length then
    .error (.tooManyRoutes config.routes.length)
  else config.routes.mapM (registry.loadRoute engine)

end Registry

end PathRouting
