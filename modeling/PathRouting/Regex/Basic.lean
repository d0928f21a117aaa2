import PathRouting.Pattern.Error

/-!
# Regular expressions

A regular expression is compiled by an engine, which also searches for it.  Which expressions there
are and what they match is up to the engine: all that is kept here is the text of the expression and
the search that the engine made of it.
-/

namespace PathRouting

namespace Regex

/-- Finds the first match in a text: the whole match, then the captures of the groups. -/
abbrev Search := String → Option (String × List (Option String))

/-- Compiles an expression, or says why it cannot be compiled. -/
abbrev Engine := String → Except String Search

end Regex

structure Regex where
  /-- The expression as it was written. -/
  source : String
  captures : Regex.Search

namespace Regex

def compile (engine : Engine) (source : String) : Except PatternError Regex := do
  checkLength source
  match engine source with
  | .ok search => return ⟨source, search⟩
  | .error reason => throw (.invalidRegex source reason)

end Regex

end PathRouting
