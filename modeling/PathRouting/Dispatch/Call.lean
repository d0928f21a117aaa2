import PathRouting.Match
import PathRouting.Operation

/-!
# Calls of handlers

What a handler is told about the route that matched, and what it answers.
-/

namespace PathRouting

/-- The arguments of a call.  A change hands over the captures, a set the whole match. -/
inductive Args where
  | change (captures : List Value) (extra : List Value)
  | set (matched : Match) (extra : List Value)
  deriving DecidableEq

namespace Args

def ofMatch (kind : OperationKind) (m : Match) (extra : List Value) : Args :=
  match kind with
  | .change => .change m.values extra
  | .set => .set m extra

/-- The extra arguments of the operation. -/
def extra : Args → List Value
  | change _ extra | set _ extra => extra

def match? : Args → Option Match
  | change _ _ => none
  | set matched _ => some matched

/-- The captures in order, then the extra arguments. -/
def positional : Args → List Value
  | change captures extra => captures ++ extra
  | set matched extra => matched.values ++ extra

@[simp] theorem extra_ofMatch (kind : OperationKind) (m : Match) (extra : List Value) :
    (ofMatch kind m extra).extra = extra := by
  cases kind <;> rfl

@[simp] theorem positional_ofMatch (kind : OperationKind) (m : Match) (extra : List Value) :
    (ofMatch kind m extra).positional = m.values ++ extra := by
  cases kind <;> rfl

end Args

structure Call where
  /-- The position of the route among those dispatched over. -/
  index : Nat
  route : Option String
  kind : OperationKind
  path : String
  args : Args
  deriving DecidableEq

/-- What a handler asks for. -/
inductive Flow (ρ : Type) where
  /-- Keep this result and go on. -/
  | proceed (result : ρ)
  /-- Stop; no later route is looked at. -/
  | reject
  deriving DecidableEq

inductive Outcome (ρ : Type) where
  | noMatch
  /-- The result of the last handler. -/
  | handled (result : ρ)
  | rejected
  deriving DecidableEq

namespace Outcome

/-- The outcome with its result quoted. -/
def inspect : Outcome String → String
  | noMatch => "NoMatch"
  | handled result => "Handled(" ++ Text.quote result ++ ")"
  | rejected => "Rejected"

end Outcome

end PathRouting
