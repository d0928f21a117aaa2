import PathRouting.Handlers.Reply
import PathRouting.Registry

/-!
# The standard handler types

The types of the simple handlers, and the registry that has them under their URLs.
-/

namespace PathRouting

/-- The types of simple handlers that a configuration can name. -/
inductive HandlerType where
  | echo
  | constant
  | fail
  | reject
  deriving DecidableEq

namespace HandlerType

/-- Reads a record whose only field is a text. -/
def decodeText (name field : String) (fallback : Option String) :
    Json → Except DecodeError String :=
  RecordShape.read ⟨name, [field], true⟩ .strict fallback
    (fun _ j _ => do return some (← j.text .strict))
    (fun missing text => required missing field text)

/-- Reads the configuration of a handler.  Rejecting takes any. -/
def decode : HandlerType → Json → Except DecodeError Reply
  | echo, j => do return .echo (← decodeText "EchoConfig" "label" (some "") j)
  | constant, j => do return .constant (← decodeText "ConstantConfig" "value" none j)
  | fail, j => do return .fail (← decodeText "FailConfig" "message" none j)
  | reject, _ => .ok .reject

/-- Refuses a handler that could not say why it fails. -/
def check : Reply → Except RouteError Reply
  | .fail "" => .error (.invalidConfig "Fail.message must not be empty")
  | reply => .ok reply

instance : HandlerTypes HandlerType Reply where
  Config _ := Reply
  decode type j := (type.decode j).mapError DecodeError.message
  make _ := check

def build (type : HandlerType) (typeUrl : String) (config : Json) : Except RouteError Reply :=
  HandlerTypes.build type typeUrl config

@[simp] theorem handlerTypes_build (type : HandlerType) (typeUrl : String) (config : Json) :
    HandlerTypes.build type typeUrl config = type.build typeUrl config := rfl

end HandlerType

namespace Registry

/-- The handler types that are always there. -/
def standard : Registry HandlerType :=
  ofList [(.echo, "trail.test.v1.Echo"), (.reject, "trail.test.v1.Reject"),
    (.constant, "trail.test.v1.Constant"), (.fail, "trail.test.v1.Fail")]

end Registry

end PathRouting
