import PathRouting.Config.Decoding

/-!
# Configurations of routers

A router is configured by a list of routes.  Each route has a name, a pattern or a regular
expression, and a handler that is found by the URL of its type and configured by a document of its
own.
-/

namespace PathRouting

/-- Which handler a route has, and its configuration. -/
structure HandlerConfig where
  typeUrl : String
  config : Json

/-- The configuration of a route. -/
structure RouteConfig where
  name : Option String
  pattern : Option String
  regex : Option String
  handler : HandlerConfig

/-- The configuration of a router. -/
structure RouterConfig where
  routes : List RouteConfig

namespace HandlerConfig

def shape : RecordShape := ⟨"TypedConfig", ["type_url", "config"], true⟩

/-- A handler that is being read. -/
structure Draft where
  typeUrl : Option String
  config : Option Json

/-- The containers around the configuration of a handler: the router, its list of routes, the route
and the handler. -/
def depth : Nat := 4

def Draft.put (dialect : Json.Dialect) (field : String) (j : Json) (d : Draft) :
    Except DecodeError Draft :=
  if field = "type_url" then do return { d with typeUrl := some (← j.text dialect) }
  else do return { d with config := some (← j.document dialect depth) }

/-- The handler that was read; without a configuration it has an empty one. -/
def Draft.finish (missing : String → DecodeError) (d : Draft) :
    Except DecodeError HandlerConfig := do
  return ⟨← required missing "type_url" d.typeUrl, d.config.getD (.object [])⟩

def decode (dialect : Json.Dialect) : Json → Except DecodeError HandlerConfig :=
  shape.read dialect ⟨none, none⟩ (Draft.put dialect) Draft.finish

end HandlerConfig

namespace RouteConfig

def shape : RecordShape := ⟨"RouteConfig", ["name", "pattern", "regex", "handler"], true⟩

/-- A route that is being read. -/
structure Draft where
  name : Option String
  pattern : Option String
  regex : Option String
  handler : Option HandlerConfig

def Draft.put (dialect : Json.Dialect) (field : String) (j : Json) (d : Draft) :
    Except DecodeError Draft :=
  if field = "name" then do return { d with name := ← j.optionalText dialect }
  else if field = "pattern" then do return { d with pattern := ← j.optionalText dialect }
  else if field = "regex" then do return { d with regex := ← j.optionalText dialect }
  else do return { d with handler := some (← HandlerConfig.decode dialect j) }

def Draft.finish (missing : String → DecodeError) (d : Draft) : Except DecodeError RouteConfig := do
  return ⟨d.name, d.pattern, d.regex, ← required missing "handler" d.handler⟩

def decode (dialect : Json.Dialect) : Json → Except DecodeError RouteConfig :=
  shape.read dialect ⟨none, none, none, none⟩ (Draft.put dialect) Draft.finish

end RouteConfig

namespace RouterConfig

def shape : RecordShape := ⟨"RouterConfig", ["routes"], true⟩

def putRoutes (dialect : Json.Dialect) (_ : String) (j : Json) (_ : Option (List RouteConfig)) :
    Except DecodeError (Option (List RouteConfig)) := do
  return some (← j.list (RouteConfig.decode dialect))

def decode (dialect : Json.Dialect) : Json → Except DecodeError RouterConfig :=
  shape.read dialect none (putRoutes dialect) fun missing routes => do
    return ⟨← required missing "routes" routes⟩

end RouterConfig

end PathRouting
