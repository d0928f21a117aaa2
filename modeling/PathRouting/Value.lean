import PathRouting.Text.Quoted
import PathRouting.Text.Utf8

/-!
# Route values

The values that paths carry into handlers and that data bags carry into templates.  Captured text
is read by `Value.coerce`; a value is written back into a path by `Value.text`.
-/

namespace PathRouting

inductive Value where
  /-- No value: the token took no part in the match. -/
  | absent
  | bool (b : Bool)
  | int (n : Int64)
  | text (s : String)
  deriving DecidableEq

namespace Value

/-- The greatest integer a value can hold. -/
def maxInt : Nat := 1 <<< 63 - 1

/-- The number that a run of decimal digits spells, most significant digit first. -/
def digitsToNat (digits : List Char) : Nat :=
  digits.foldl (fun n c => 10 * n + (c.toNat - '0'.toNat)) 0

/-- Reads captured text: a boolean word in any ASCII case, a run of digits that fits, or the text
itself. -/
def coerce (raw : String) : Value :=
  if Text.sameIgnoringCase raw "true" then .bool true
  else if Text.sameIgnoringCase raw "false" then .bool false
  else if !raw.toList.isEmpty && raw.toList.all Char.isDigit
      && digitsToNat raw.toList ≤ maxInt then
    .int (Int64.ofNat (digitsToNat raw.toList))
  else .text raw

/-- How a value is written into a path or an argument list. -/
def display : Value → String
  | .absent => ""
  | .bool true => "true"
  | .bool false => "false"
  | .int n => toString n.toInt
  | .text s => s

/-- Whether a value can fill a token of a template. -/
def isPresent : Value → Bool
  | .absent => false
  | .text s => !s.isEmpty
  | .bool _ | .int _ => true

def asText? : Value → Option String
  | .text s => some s
  | _ => none

/-- The number of an integer value. -/
def asInt? : Value → Option Int64
  | .int n => some n
  | _ => none

def asBool? : Value → Option Bool
  | .bool b => some b
  | _ => none

/-- The value with its kind spelled out. -/
def inspect : Value → String
  | .absent => "None"
  | .bool b => "Bool(" ++ display (.bool b) ++ ")"
  | .int n => "Int(" ++ display (.int n) ++ ")"
  | .text s => "String(" ++ Text.quote s ++ ")"

end Value

end PathRouting
