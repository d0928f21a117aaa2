import PathRouting.Pattern.Error
import PathRouting.Pattern.Lexeme
import PathRouting.Pattern.Segment

/-!
# Reading a pattern

Lexemes are gathered into segments.  Parentheses are checked in the order they are written, then
the number of tokens, then their names.
-/

namespace PathRouting.Pattern

/-- A group whose closing parenthesis has not come yet: where it opens and what it holds. -/
structure OpenGroup where
  start : Nat
  body : List Piece

/-- Gathers lexemes into segments, given the group that is open before them. -/
def gather (pattern : String) : Option OpenGroup → List Lexeme → Except PatternError (List Segment)
  | none, [] => .ok []
  | some g, [] => .error (.unbalanced pattern g.start)
  | none, ⟨_, .text chars⟩ :: rest => do
      return .piece (.literal (String.ofList chars)) :: (← gather pattern none rest)
  | some g, ⟨_, .text chars⟩ :: rest =>
      gather pattern (some { g with body := g.body ++ [.literal (String.ofList chars)] }) rest
  | none, ⟨_, .token name optional⟩ :: rest => do
      return .piece (.token (String.ofList name) optional) :: (← gather pattern none rest)
  | some g, ⟨_, .token name optional⟩ :: rest =>
      gather pattern (some { g with body := g.body ++ [.token (String.ofList name) optional] }) rest
  | none, ⟨start, .opening⟩ :: rest => gather pattern (some ⟨start, []⟩) rest
  | some _, ⟨start, .opening⟩ :: _ => .error (.nestedGroup pattern start)
  | none, ⟨start, .closing⟩ :: _ => .error (.unbalanced pattern start)
  | some ⟨start, []⟩, ⟨_, .closing⟩ :: _ => .error (.emptyGroup pattern start)
  | some ⟨_, p :: body⟩, ⟨_, .closing⟩ :: rest => do
      return .group (p :: body) :: (← gather pattern none rest)

/-- The first name that repeats an earlier one, given the names before the list. -/
def firstRepeated? (seen : List String) : List String → Option String
  | [] => none
  | name :: names => if name ∈ seen then some name else firstRepeated? (name :: seen) names

def checkTokens (pattern : String) (segments : List Segment) : Except PatternError Unit :=
  let names := tokenNames segments
  if PatternError.maxTokens < names.length then .error (.tooManyTokens names.length)
  else match firstRepeated? [] names with
    | some name => .error (.duplicateToken pattern name)
    | none => .ok ()

def parse (pattern : String) : Except PatternError (List Segment) := do
  checkLength pattern
  let segments ← gather pattern none (lexemes pattern)
  checkTokens pattern segments
  return segments

end PathRouting.Pattern
