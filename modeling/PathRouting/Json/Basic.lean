import PathRouting.Json.Number

/-!
# Documents

Configurations and fixtures are written as JSON documents.  A document keeps the members of an
object in the order they are written and a number as it is spelled.
-/

namespace PathRouting

inductive Json where
  | null
  | bool (b : Bool)
  | number (literal : String) (value : Number)
  | string (s : String)
  | array (items : List Json)
  | object (members : List (String × Json))

namespace Json

/-- How documents are written: the data format itself, or the same documents inside a YAML
stream.  There numbers go further, any plain scalar may be read as text, a comma may stand before
the end of a container and records are objects only. -/
inductive Dialect where
  | strict
  | yaml
  deriving DecidableEq

/-- Puts a member among members that are sorted by key, in the place of one with the same key. -/
def insertMember (key : String) (value : Json) : List (String × Json) → List (String × Json)
  | [] => [(key, value)]
  | (k, v) :: rest =>
      if key < k then (key, value) :: (k, v) :: rest
      else if key = k then (key, value) :: rest
      else (k, v) :: insertMember key value rest

mutual

/-- The document with the members of every object sorted by key; of members with one key the last
is kept. -/
def sorted : Json → Json
  | array items => array (sortedItems items)
  | object members => object (sortedMembers [] members)
  | j => j

def sortedItems : List Json → List Json
  | [] => []
  | j :: items => j.sorted :: sortedItems items

/-- Puts members, sorted inside, among members that are sorted already. -/
def sortedMembers (done : List (String × Json)) : List (String × Json) → List (String × Json)
  | [] => done
  | (key, j) :: members => sortedMembers (insertMember key j.sorted done) members

end

mutual

/-- Whether every integer of a document fits into 64 bits. -/
def isNarrow : Json → Bool
  | number _ (.integer n) => -(2 ^ 63) ≤ n && n < 2 ^ 64
  | array items => allNarrow items
  | object members => membersNarrow members
  | _ => true

/-- Whether every integer of some items fits into 64 bits. -/
def allNarrow : List Json → Bool
  | [] => true
  | j :: items => j.isNarrow && allNarrow items

/-- Whether every integer of some members fits into 64 bits. -/
def membersNarrow : List (String × Json) → Bool
  | [] => true
  | (_, j) :: members => j.isNarrow && membersNarrow members

end

mutual

/-- Whether no more than `limit` containers of a document lie inside one another. -/
def nestsWithin (limit : Nat) : Json → Bool
  | array items => 0 < limit && allNestWithin (limit - 1) items
  | object members => 0 < limit && membersNestWithin (limit - 1) members
  | _ => true

/-- Whether no more than `limit` containers of some items lie inside one another. -/
def allNestWithin (limit : Nat) : List Json → Bool
  | [] => true
  | j :: items => j.nestsWithin limit && allNestWithin limit items

/-- Whether no more than `limit` containers of some members lie inside one another. -/
def membersNestWithin (limit : Nat) : List (String × Json) → Bool
  | [] => true
  | (_, j) :: members => j.nestsWithin limit && membersNestWithin limit members

end

/-- The value of a member; of members with one key the last counts. -/
def member? (key : String) : Json → Option Json
  | object members => (members.reverse.find? (·.1 == key)).map (·.2)
  | _ => none

end Json

end PathRouting
