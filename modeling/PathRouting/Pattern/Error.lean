/-!
# Errors of patterns

Why a pattern, a template or a regular expression is refused.  Positions and lengths count the
bytes of the UTF-8 form.
-/

namespace PathRouting

/-- Why a pattern is refused. -/
inductive PatternError where
  /-- A parenthesis without its partner. -/
  | unbalanced (pattern : String) (position : Nat)
  | nestedGroup (pattern : String) (position : Nat)
  /-- A group with nothing inside. -/
  | emptyGroup (pattern : String) (position : Nat)
  | duplicateToken (pattern : String) (name : String)
  | tooLong (length : Nat)
  | tooManyTokens (count : Nat)
  /-- A regular expression that cannot be read. -/
  | invalidRegex (pattern : String) (reason : String)
  deriving DecidableEq

namespace PatternError

/-- The most bytes a pattern, template or regular expression may have. -/
def maxLength : Nat := 4096

/-- The most tokens one pattern may have. -/
def maxTokens : Nat := 64

/-- The text of a limit that was passed. -/
def overLimit (found : String) (limit : Nat) : String :=
  found ++ ", but maximum allowed is " ++ toString limit

def message : PatternError → String
  | unbalanced pattern position =>
      "unbalanced group in pattern \"" ++ pattern ++ "\" at byte " ++ toString position
  | nestedGroup pattern position =>
      "nested group in pattern \"" ++ pattern ++ "\" at byte " ++ toString position ++
        " — groups cannot contain groups"
  | emptyGroup pattern position =>
      "empty group in pattern \"" ++ pattern ++ "\" at byte " ++ toString position
  | duplicateToken pattern name =>
      "token \":" ++ name ++ "\" appears more than once in pattern \"" ++ pattern ++ "\""
  | tooLong length => overLimit ("pattern length is " ++ toString length) maxLength
  | tooManyTokens count => overLimit ("pattern has " ++ toString count ++ " tokens") maxTokens
  | invalidRegex pattern reason => "invalid regex \"" ++ pattern ++ "\": " ++ reason

end PatternError

/-- Refuses a pattern with too many bytes. -/
def checkLength (pattern : String) : Except PatternError Unit :=
  if pattern.utf8ByteSize ≤ PatternError.maxLength then .ok ()
  else .error (.tooLong pattern.utf8ByteSize)

end PathRouting
