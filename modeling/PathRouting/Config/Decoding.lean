import PathRouting.Json.Token
import PathRouting.Bag

/-!
# Decoding documents

How texts, values, lists and records are read from a document, and why a document is refused.  A
record is an object with the record's fields or, outside of YAML streams, an array of them in their
declared order.  The members of an object are looked at in the order they stand in, and the first
problem wins; fields that are missing are noticed last.
-/

namespace PathRouting

/-! ## Errors -/

/-- What a place in a document should hold. -/
inductive Wanted where
  | string
  | sequence
  | map
  | record (name : String)

/-- Why a document is refused. -/
inductive DecodeError where
  | wrongKind (found : Json) (wanted : Wanted)
  | missingField (field : String)
  | unknownField (field : String) (fields : List String)
  | duplicateField (field : String)
  /-- An array that ends before a required field of a record with `fields` fields. -/
  | tooFewItems (position : Nat) (record : String) (fields : Nat)
  /-- An array with more items than the record has fields. -/
  | tooManyItems (length : Nat)
  | notAValue
  | integerTooLarge
  /-- A document with too many containers inside one another. -/
  | tooDeep
  /-- Not one of the known alternatives. -/
  | unknownVariant (found : Json)

namespace DecodeError

/-- The kind of a value, with the value itself if it is short. -/
def describe : Json → String
  | .null => "null"
  | .bool true => "boolean `true`"
  | .bool false => "boolean `false`"
  | .number _ (.integer n) => "integer `" ++ toString n ++ "`"
  | .number _ (.fractional negative magnitude) =>
      "floating point `" ++ Decimal.render negative magnitude ++ "`"
  | .string s => "string " ++ Text.quote s
  | .array _ => "sequence"
  | .object _ => "map"

def wanted : Wanted → String
  | .string => "a string"
  | .sequence => "a sequence"
  | .map => "a map"
  | .record name => "struct " ++ name

def backquoted (name : String) : String := "`" ++ name ++ "`"

/-- The fields a record has, in words. -/
def alternatives : List String → String
  | [] => "there are no fields"
  | [a] => "expected " ++ backquoted a
  | [a, b] => "expected " ++ backquoted a ++ " or " ++ backquoted b
  | fields => "expected one of " ++ ", ".intercalate (fields.map backquoted)

def message : DecodeError → String
  | wrongKind found w => "invalid type: " ++ describe found ++ ", expected " ++ wanted w
  | missingField field => "missing field " ++ backquoted field
  | unknownField field fields => "unknown field " ++ backquoted field ++ ", " ++ alternatives fields
  | duplicateField field => "duplicate field " ++ backquoted field
  | tooFewItems position record fields =>
      "invalid length " ++ toString position ++ ", expected struct " ++ record ++ " with " ++
        toString fields ++ (if fields = 1 then " element" else " elements")
  | tooManyItems length =>
      "invalid length " ++ toString length ++ ", expected fewer elements in array"
  | notAValue => "data did not match any variant of untagged enum RouteValue"
  | integerTooLarge => "integer out of range"
  | tooDeep => "document nested too deeply"
  | unknownVariant found => "unknown variant: " ++ describe found

end DecodeError

/-! ## Texts, values and lists -/

namespace Json

/-- Reads a text.  In a YAML stream a plain scalar is a text too, as it is spelled. -/
def text (dialect : Dialect) : Json → Except DecodeError String
  | .string s => .ok s
  | .null => if dialect = .yaml then .ok "null" else .error (.wrongKind .null .string)
  | .bool b =>
      if dialect = .yaml then .ok (if b then "true" else "false")
      else .error (.wrongKind (.bool b) .string)
  | .number literal value =>
      if dialect = .yaml then .ok literal else .error (.wrongKind (.number literal value) .string)
  | j => .error (.wrongKind j .string)

def optionalText (dialect : Dialect) : Json → Except DecodeError (Option String)
  | .null => .ok none
  | j => (j.text dialect).map some

def list {α : Type} (item : Json → Except DecodeError α) : Json → Except DecodeError (List α)
  | .array items => items.mapM item
  | j => .error (.wrongKind j .sequence)

def value : Json → Except DecodeError Value
  | .null => .ok .absent
  | .bool b => .ok (.bool b)
  | .number _ (.integer n) =>
      if Int64.minValue.toInt ≤ n && n ≤ Int64.maxValue.toInt then .ok (.int (Int64.ofInt n))
      else .error .notAValue
  | .string s => .ok (.text s)
  | _ => .error .notAValue

/-- The most containers that may lie inside one another in what is kept of a YAML stream. -/
def keptDepthLimit : Nat := 128

/-- Reads any document; the members of its objects are sorted.  From a YAML stream no integer of
more than 64 bits is taken and no more containers than the limit lets inside the `depth` containers
around the document. -/
def document (dialect : Dialect) (depth : Nat) (j : Json) : Except DecodeError Json :=
  if dialect = .strict then .ok j.sorted
  else if !j.nestsWithin (keptDepthLimit - depth) then .error .tooDeep
  else if !j.isNarrow then .error .integerTooLarge
  else .ok j.sorted

/-- Puts the values of an object into a bag; of members with one key the last counts. -/
def bagMembers (bag : Bag) : List (String × Json) → Except DecodeError Bag
  | [] => .ok bag
  | (key, j) :: members => do bagMembers (bag.insert key (← j.value)) members

def bag : Json → Except DecodeError Bag
  | .object members => bagMembers ∅ members
  | j => .error (.wrongKind j .map)

end Json

/-! ## Records -/

/-- A kind of record: its name, its fields in their declared order and whether a member with
another name is refused. -/
structure RecordShape where
  name : String
  fields : List String
  closed : Bool

namespace RecordShape

variable {δ α : Type}

/-- Puts the members of an object into a draft one after the other; `seen` are the fields that
were read before. -/
def readMembers (shape : RecordShape) (put : String → Json → δ → Except DecodeError δ)
    (seen : List String) (draft : δ) : List (String × Json) → Except DecodeError δ
  | [] => .ok draft
  | (key, j) :: members =>
      if key ∈ shape.fields then
        if key ∈ seen then .error (.duplicateField key)
        else do shape.readMembers put (key :: seen) (← put key j draft) members
      else if shape.closed then .error (.unknownField key shape.fields)
      else shape.readMembers put seen draft members

/-- Puts the items of an array into a draft, each under the name of its position. -/
def readItems (put : String → Json → δ → Except DecodeError δ) (draft : δ) :
    List String → List Json → Except DecodeError δ
  | key :: fields, j :: items => do readItems put (← put key j draft) fields items
  | _, _ => .ok draft

/-- Reads a record: fills a draft field by field and finishes it.  `finish` is told how to
complain about a field that is missing. -/
def read (shape : RecordShape) (dialect : Json.Dialect) (draft : δ)
    (put : String → Json → δ → Except DecodeError δ)
    (finish : (String → DecodeError) → δ → Except DecodeError α) : Json → Except DecodeError α
  | .object members => do
      finish .missingField (← shape.readMembers put [] draft members)
  | .array items =>
      if dialect = .yaml then .error (.wrongKind (.array items) (.record shape.name))
      else do
        let filled ← readItems put draft shape.fields items
        let record ← finish
          (fun field => .tooFewItems (shape.fields.idxOf field) shape.name shape.fields.length)
          filled
        if shape.fields.length < items.length then throw (.tooManyItems items.length)
        return record
  | j => .error (.wrongKind j (.record shape.name))

end RecordShape

/-- The value of a field that must be given. -/
def required {α : Type} (missing : String → DecodeError) (field : String) :
    Option α → Except DecodeError α
  | some a => .ok a
  | none => .error (missing field)

@[simp] theorem required_some {α : Type} (missing : String → DecodeError) (field : String) (a : α) :
    required missing field (some a) = .ok a := rfl

@[simp] theorem required_none {α : Type} (missing : String → DecodeError) (field : String) :
    (required missing field none : Except DecodeError α) = .error (missing field) := rfl

end PathRouting
