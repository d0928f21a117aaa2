import PathRouting.Error
import PathRouting.Template

/-!
# Operations

What is dispatched: a change to a path, or a path that is first written from a template and a data
bag.
-/

namespace PathRouting

inductive OperationKind where
  | change
  /-- The path is written from a template. -/
  | set
  deriving DecidableEq

namespace OperationKind

def eventType : OperationKind → String
  | change => "route/change"
  | set => "route/set"

def ofEventType (kind : String) : Except RouteError OperationKind :=
  if kind = eventType change then .ok change
  else if kind = eventType set then .ok set
  else .error (.unsupportedOperation kind)

@[simp] theorem ofEventType_eventType (kind : OperationKind) :
    ofEventType kind.eventType = .ok kind := by
  cases kind <;> simp [ofEventType, eventType]

def inspect : OperationKind → String
  | change => "Change"
  | set => "Set"

end OperationKind

/-- An operation: the path or template, the values that fill the template, and extra arguments for
the handlers. -/
structure Operation where
  kind : OperationKind
  path : String
  data : Bag
  args : List Value

/-- An operation whose kind is given by its event type. -/
structure Event where
  kind : String
  path : String
  data : Bag
  args : List Value

namespace Operation

def change (path : String) : Operation := ⟨.change, path, ∅, []⟩

def set (template : String) (data : Bag) : Operation := ⟨.set, template, data, []⟩

def ofEvent (event : Event) : Except RouteError Operation := do
  return ⟨← OperationKind.ofEventType event.kind, event.path, event.data, event.args⟩

def withArgs (op : Operation) (args : List Value) : Operation :=
  { op with args := op.args ++ args }

@[simp] theorem args_withArgs (op : Operation) (args : List Value) :
    (op.withArgs args).args = op.args ++ args := rfl

def effectivePath (op : Operation) : Except PatternError String :=
  match op.kind with
  | .change => .ok op.path
  | .set => synthesize op.path op.data

@[simp] theorem effectivePath_change (path : String) : (change path).effectivePath = .ok path := rfl

@[simp] theorem effectivePath_set (template : String) (data : Bag) :
    (set template data).effectivePath = synthesize template data := rfl

@[simp] theorem effectivePath_withArgs (op : Operation) (args : List Value) :
    (op.withArgs args).effectivePath = op.effectivePath := rfl

end Operation

end PathRouting
