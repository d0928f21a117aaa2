import PathRouting.Proofs.Loading.Checks

/-!
# Handlers written as configurations

Every simple handler can be written as a configuration, and the standard registry makes the handler
from what was written.
-/

namespace PathRouting

def Reply.config : Reply → HandlerConfig
  | .echo label => ⟨"trail.test.v1.Echo", .object [("label", .string label)]⟩
  | .constant text => ⟨"trail.test.v1.Constant", .object [("value", .string text)]⟩
  | .fail message => ⟨"trail.test.v1.Fail", .object [("message", .string message)]⟩
  | .reject => ⟨"trail.test.v1.Reject", .object []⟩

def Reply.type : Reply → HandlerType
  | .echo _ => .echo
  | .constant _ => .constant
  | .fail _ => .fail
  | .reject => .reject

theorem Registry.standard_types (typeUrl : String) : standard.types[typeUrl]? =
    if typeUrl = "trail.test.v1.Fail" then some .fail
    else if typeUrl = "trail.test.v1.Constant" then some .constant
    else if typeUrl = "trail.test.v1.Reject" then some .reject
    else if typeUrl = "trail.test.v1.Echo" then some .echo
    else none := by
  simp [standard, ofList, Std.ExtTreeMap.getElem?_insert, eq_comm (a := typeUrl)]

theorem Registry.standard_types_config (reply : Reply) :
    standard.types[reply.config.typeUrl]? = some reply.type := by
  rw [standard_types]
  cases reply <;> rfl

theorem HandlerType.decodeText_written (name field text : String) (fallback : Option String) :
    decodeText name field fallback (.object [(field, .string text)]) = .ok text := by
  simp [decodeText, RecordShape.read, RecordShape.readMembers, Json.text, bind, Except.bind, pure,
    Except.pure]

theorem Reply.decode_config (reply : Reply) :
    reply.type.decode reply.config.config = .ok reply := by
  cases reply with
  | reject => rfl
  | echo | constant | fail =>
    simp only [type, config, HandlerType.decode, HandlerType.decodeText_written]
    rfl

theorem Reply.makes_config {reply : Reply} (audible : reply ≠ .fail "") :
    reply.config.Makes Registry.standard reply :=
  ⟨audible, reply.type, Registry.standard_types_config reply, reply.decode_config⟩

end PathRouting
