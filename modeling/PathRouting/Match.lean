import PathRouting.Value

/-!
# Matches

What a path gave to the pattern that it matches: one value for each capture, in order, and the
names the pattern has for them.
-/

namespace PathRouting

structure Match where
  matched : String
  values : List Value
  /-- The names of the captures; empty if they have none. -/
  names : List String
  deriving DecidableEq

namespace Match

/-- The value of a capture: absent if the capture took no part. -/
def valueOf : Option String → Value
  | none => .absent
  | some raw => .coerce raw

def ofCaptures (matched : String) (captures : List (Option String)) (names : List String) : Match :=
  ⟨matched, captures.map valueOf, names⟩

@[simp] theorem matched_ofCaptures (matched : String) (captures : List (Option String))
    (names : List String) : (ofCaptures matched captures names).matched = matched := rfl

@[simp] theorem values_ofCaptures (matched : String) (captures : List (Option String))
    (names : List String) : (ofCaptures matched captures names).values = captures.map valueOf := rfl

@[simp] theorem names_ofCaptures (matched : String) (captures : List (Option String))
    (names : List String) : (ofCaptures matched captures names).names = names := rfl

def at? (m : Match) (index : Nat) : Option Value :=
  m.values[index]?

def get? (m : Match) (name : String) : Option Value :=
  (m.names.idxOf? name).bind m.at?

def named (m : Match) : List (String × Value) :=
  m.names.zip m.values

def size (m : Match) : Nat :=
  m.values.length

@[simp] theorem size_ofCaptures (matched : String) (captures : List (Option String))
    (names : List String) : (ofCaptures matched captures names).size = captures.length := by
  simp [size]

def isEmpty (m : Match) : Bool :=
  m.values.isEmpty

end Match

end PathRouting
