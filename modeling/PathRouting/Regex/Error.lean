/-!
# Errors of regular expressions

Why a regular expression is refused.
-/

namespace PathRouting.Regex

/-- Why a regular expression is refused. -/
inductive ReadError where
  | unopenedGroup
  | unclosedGroup
  | unclosedClass
  | nothingToRepeat
  | badCount
  | badRange
  | badEscape
  | badFlag
  | badGroupName
  | duplicateGroupName (name : String)
  | lookAround
  | tooDeep
  | tooLarge

def ReadError.message : ReadError → String
  | unopenedGroup => "unopened group"
  | unclosedGroup => "unclosed group"
  | unclosedClass => "unclosed character class"
  | nothingToRepeat => "repetition operator missing expression"
  | badCount => "invalid repetition count"
  | badRange => "invalid character class range"
  | badEscape => "unrecognized escape sequence"
  | badFlag => "unrecognized flag"
  | badGroupName => "invalid capture group name"
  | duplicateGroupName name => "duplicate capture group name " ++ name
  | lookAround => "look-around is not supported"
  | tooDeep => "expression nested too deeply"
  | tooLarge => "compiled expression too large"

end PathRouting.Regex
