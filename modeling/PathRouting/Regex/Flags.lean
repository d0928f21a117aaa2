import PathRouting.Regex.CharSet
import PathRouting.Regex.Error

/-!
# Flags of a regular expression

Flags say how the rest of a group is read.  They hold from where they are set to the end of the
group around them, across alternatives.
-/

namespace PathRouting.Regex

/-- The flags in force. -/
structure Flags where
  ignoreCase : Bool := false
  multiLine : Bool := false
  dotMatchesNewline : Bool := false
  lazyByDefault : Bool := false

/-- Reads the flags of a group up to the colon or the parenthesis behind them.  Each flag may be
named once, and a dash turns off those behind it. -/
def readFlags (seen : List Char) (on : Bool) (flags : Flags) :
    List Char → Except ReadError (Flags × Bool × List Char)
  | [] => .error .badFlag
  | ':' :: rest =>
      if seen.head? = some '-' then .error .badFlag else .ok (flags, true, rest)
  | ')' :: rest =>
      if seen.isEmpty then .error .nothingToRepeat
      else if seen.head? = some '-' then .error .badFlag
      else .ok (flags, false, rest)
  | c :: rest =>
      if c ∈ seen then .error .badFlag
      else if c = '-' then readFlags (c :: seen) false flags rest
      else if c = 'i' then readFlags (c :: seen) on { flags with ignoreCase := on } rest
      else if c = 'm' then readFlags (c :: seen) on { flags with multiLine := on } rest
      else if c = 's' then readFlags (c :: seen) on { flags with dotMatchesNewline := on } rest
      else if c = 'U' then readFlags (c :: seen) on { flags with lazyByDefault := on } rest
      else .error .badFlag

def CharSet.fold (flags : Flags) (s : CharSet) : CharSet :=
  if flags.ignoreCase then s.anyCase else s

end PathRouting.Regex
