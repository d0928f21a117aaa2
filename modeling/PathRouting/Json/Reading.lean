import PathRouting.Json.Token

/-!
# Reading documents

Tokens are gathered into a document with the containers that are still open on a stack.  How many
may be open at a time is limited, but not in a YAML stream; there a comma may also stand before the
end of a container.
-/

namespace PathRouting.Json

/-! ## Documents under way -/

/-- A container that is still open: the items or members it holds so far, last first. -/
inductive Frame where
  | array (items : List Json)
  | object (members : List (String × Json))

/-- What may come next. -/
inductive Expected where
  /-- A value; `closing` if the array may also end. -/
  | value (closing : Bool)
  /-- A key; `closing` if the object may also end. -/
  | key (closing : Bool)
  | colon (key : String)
  | memberValue (key : String)
  /-- A comma or the end of the container. -/
  | more
  /-- Nothing: the document is complete. -/
  | nothing (document : Json)

/-- The open containers, the innermost first, and what may come next. -/
structure Gather where
  frames : List Frame
  expected : Expected

namespace Gather

/-- The most containers that may be open at a time, where that is limited. -/
def depthLimit : Nat := 127

/-- Whether one more container may be opened inside those that are open. -/
def mayOpen (dialect : Dialect) (frames : List Frame) : Bool :=
  dialect = .yaml || frames.length < depthLimit

/-- Hands a value to the innermost open container. -/
def give (frames : List Frame) (expected : Expected) (j : Json) : Except ReadError Gather :=
  match expected, frames with
  | .value _, [] => .ok ⟨[], .nothing j⟩
  | .value _, .array items :: rest => .ok ⟨.array (j :: items) :: rest, .more⟩
  | .memberValue key, .object members :: rest => .ok ⟨.object ((key, j) :: members) :: rest, .more⟩
  | _, _ => .error .misplacedToken

/-- Whether a value may come next. -/
def wantsValue : Expected → Bool
  | .value _ | .memberValue _ => true
  | _ => false

/-- Opens a container: the key that it belongs to waits in the object around it. -/
def openFrame (dialect : Dialect) (g : Gather) (frame : Frame) (expected : Expected) :
    Except ReadError Gather :=
  if mayOpen dialect g.frames then
    match g.expected, g.frames with
    | .value _, frames => .ok ⟨frame :: frames, expected⟩
    | .memberValue key, .object members :: rest =>
        .ok ⟨frame :: .object ((key, .null) :: members) :: rest, expected⟩
    | _, _ => .error .misplacedToken
  else if wantsValue g.expected then .error .tooDeep
  else .error .misplacedToken

/-- Hands a finished container to the one around it. -/
def close (frames : List Frame) (j : Json) : Except ReadError Gather :=
  match frames with
  | .object ((key, _) :: members) :: rest => give (.object members :: rest) (.memberValue key) j
  | frames => give frames (.value false) j

def take (dialect : Dialect) (g : Gather) (token : Token) : Except ReadError Gather :=
  match token, g.expected, g.frames with
  | .scalar j, expected, frames => give frames expected j
  | .text s, .key _, frames => .ok ⟨frames, .colon s⟩
  | .text s, expected, frames => give frames expected (.string s)
  | .openBracket, _, _ => openFrame dialect g (.array []) (.value true)
  | .openBrace, _, _ => openFrame dialect g (.object []) (.key true)
  | .colon, .colon key, frames => .ok ⟨frames, .memberValue key⟩
  | .comma, .more, .array items :: rest => .ok ⟨.array items :: rest, .value (dialect = .yaml)⟩
  | .comma, .more, .object members :: rest => .ok ⟨.object members :: rest, .key (dialect = .yaml)⟩
  | .closeBracket, .more, .array items :: rest => close rest (.array items.reverse)
  | .closeBracket, .value true, .array items :: rest => close rest (.array items.reverse)
  | .closeBrace, .more, .object members :: rest => close rest (.object members.reverse)
  | .closeBrace, .key true, .object members :: rest => close rest (.object members.reverse)
  | _, _, _ => .error .misplacedToken

end Gather

/-! ## Whole documents -/

/-- The document that some tokens make. -/
def ofTokens (dialect : Dialect) (tokens : List Token) : Except ReadError Json := do
  let g ← tokens.foldlM (Gather.take dialect) ⟨[], .value false⟩
  match g.expected with
  | .nothing j => return j
  | _ => throw .unfinished

def parse (text : String) : Except ReadError Json := do
  ofTokens .strict (← tokens text)

end PathRouting.Json
