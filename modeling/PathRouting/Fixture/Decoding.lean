import PathRouting.Fixture.Config

/-!
# Reading fixtures

Fixtures are documents of a YAML stream, and how such a stream is cut into documents is up to a
reader.  What a handler does and what a case expects are written as a name, or as an object with one
member whose key is the name.
-/

namespace PathRouting.Fixture

/-- The complaint about a field that is missing. -/
abbrev Missing := String → DecodeError

/-! ## Names with a text -/

/-- Reads a name alone, or a name with a text. -/
def decodeVariant {α : Type} (plain : String → Option α) (withText : String → Option (String → α)) :
    Json → Except DecodeError α
  | .string name =>
      match plain name with
      | some a => .ok a
      | none => .error (.unknownVariant (.string name))
  | .object [(name, j)] =>
      match withText name with
      | some make => do return make (← j.text .yaml)
      | none => .error (.unknownVariant (.string name))
  | j => .error (.unknownVariant j)

def decodeReply : Json → Except DecodeError Reply :=
  decodeVariant
    (fun name => if name = "reject" then some .reject else none)
    (fun name =>
      if name = "echo" then some .echo
      else if name = "constant" then some .constant
      else if name = "fail" then some .fail
      else none)

def Expectation.decode : Json → Except DecodeError Expectation :=
  decodeVariant
    (fun name =>
      if name = "no_match" then some .noMatch
      else if name = "rejected" then some .rejected
      else none)
    (fun name =>
      if name = "handled" then some .handled
      else if name = "error" then some .error
      else none)

/-! ## Routes and cases -/

namespace RouteSpec

def shape : RecordShape := ⟨"RouteSpec", ["name", "pattern", "regex", "handler"], true⟩

/-- A route that is being read. -/
structure Draft where
  name : Option String
  pattern : Option String
  regex : Option String
  reply : Option Reply

def Draft.put (field : String) (j : Json) (d : Draft) : Except DecodeError Draft :=
  if field = "name" then do return { d with name := ← j.optionalText .yaml }
  else if field = "pattern" then do return { d with pattern := ← j.optionalText .yaml }
  else if field = "regex" then do return { d with regex := ← j.optionalText .yaml }
  else do return { d with reply := some (← decodeReply j) }

def decode : Json → Except DecodeError RouteSpec :=
  shape.read .yaml ⟨none, none, none, none⟩ Draft.put fun missing d => do
    return ⟨d.name, d.pattern, d.regex, ← required missing "handler" d.reply⟩

end RouteSpec

namespace Case

def shape : RecordShape := ⟨"TestCase", ["name", "op", "path", "data", "args", "expect"], true⟩

/-- A case that is being read. -/
structure Draft where
  name : Option String
  op : String
  path : Option String
  data : Bag
  args : List Value
  expected : Option Expectation

def Draft.put (field : String) (j : Json) (d : Draft) : Except DecodeError Draft :=
  if field = "name" then do return { d with name := some (← j.text .yaml) }
  else if field = "op" then do return { d with op := ← j.text .yaml }
  else if field = "path" then do return { d with path := some (← j.text .yaml) }
  else if field = "data" then do return { d with data := ← j.bag }
  else if field = "args" then do return { d with args := ← j.list Json.value }
  else do return { d with expected := some (← Expectation.decode j) }

def Draft.finish (missing : Missing) (d : Draft) : Except DecodeError Case := do
  let name ← required missing "name" d.name
  let path ← required missing "path" d.path
  return ⟨name, ⟨d.op, path, d.data, d.args⟩, ← required missing "expect" d.expected⟩

def decode : Json → Except DecodeError Case :=
  shape.read .yaml ⟨none, OperationKind.eventType .change, none, ∅, [], none⟩ Draft.put Draft.finish

end Case

/-! ## Fixtures -/

def shape : RecordShape := ⟨"Fixture", ["name", "description", "routes", "cases"], false⟩

/-- A fixture that is being read. -/
structure Draft where
  name : Option String
  description : String
  routes : Option (List RouteSpec)
  cases : Option (List Case)

def Draft.put (field : String) (j : Json) (d : Draft) : Except DecodeError Draft :=
  if field = "name" then do return { d with name := some (← j.text .yaml) }
  else if field = "description" then do return { d with description := ← j.text .yaml }
  else if field = "routes" then do return { d with routes := some (← j.list RouteSpec.decode) }
  else do return { d with cases := some (← j.list Case.decode) }

def decode : Json → Except DecodeError Fixture :=
  shape.read .yaml ⟨none, "", none, none⟩ Draft.put fun missing d => do
    return ⟨← required missing "name" d.name, d.description,
      ← required missing "routes" d.routes, ← required missing "cases" d.cases⟩

end PathRouting.Fixture

namespace PathRouting.ConfigFixture

def shape : RecordShape :=
  ⟨"ConfigFixture", ["name", "description", "config", "cases", "expect_error"], false⟩

/-- A fixture that is being read. -/
structure Draft where
  name : Option String
  description : String
  config : Option Json
  cases : List Fixture.Case
  expectError : Option String

/-- The containers around the configuration: the fixture. -/
def depth : Nat := 1

def Draft.put (field : String) (j : Json) (d : Draft) : Except DecodeError Draft :=
  if field = "name" then do return { d with name := some (← j.text .yaml) }
  else if field = "description" then do return { d with description := ← j.text .yaml }
  else if field = "config" then do return { d with config := some (← j.document .yaml depth) }
  else if field = "cases" then do return { d with cases := ← j.list Fixture.Case.decode }
  else do return { d with expectError := ← j.optionalText .yaml }

def decode : Json → Except DecodeError ConfigFixture :=
  shape.read .yaml ⟨none, "", none, [], none⟩ Draft.put fun missing d => do
    return ⟨← required missing "name" d.name, d.description, ← required missing "config" d.config,
      d.cases, d.expectError⟩

end PathRouting.ConfigFixture

namespace PathRouting

/-! ## Streams -/

/-- Why a stream of fixtures is refused. -/
inductive FixtureError where
  | unreadable (reason : String)
  | refused (e : DecodeError)

namespace FixtureError

def decodeAll {α : Type} (decode : Json → Except DecodeError α)
    (documents : Except String (List Json)) : Except FixtureError (List α) := do
  (← documents.mapError unreadable).mapM fun j => (decode j).mapError refused

end FixtureError

namespace Fixture

def parseStream (read : String → Except String (List Json)) (stream : String) :
    Except FixtureError (List Fixture) :=
  FixtureError.decodeAll decode (read stream)

/-- Reads the only fixture of a stream. -/
def parseSingle (read : String → Except String Json) (stream : String) :
    Except FixtureError Fixture := do
  (decode (← (read stream).mapError .unreadable)).mapError .refused

end Fixture

namespace ConfigFixture

def parseStream (read : String → Except String (List Json)) (stream : String) :
    Except FixtureError (List ConfigFixture) :=
  FixtureError.decodeAll decode (read stream)

/-- Reads the only fixture of a stream. -/
def parseSingle (read : String → Except String Json) (stream : String) :
    Except FixtureError ConfigFixture := do
  (decode (← (read stream).mapError .unreadable)).mapError .refused

end ConfigFixture

end PathRouting
