import PathRouting.Regex.Basic
import PathRouting.Regex.Reading
import PathRouting.Regex.Search

/-!
# An engine for regular expressions

Reads the expression, compiles it to a program and runs the program from each place of the text.
-/

namespace PathRouting.Regex

/-- The first match of a program with the given number of groups. -/
def searchProgram (program : Array Inst) (groups : Nat) : Search := fun text =>
  let chars := text.toList.toArray
  let slots := Array.replicate (2 * (groups + 1)) none
  (tryPlaces program chars slots 0 (chars.size + 1) ∅).map fun slots =>
    ((slotText chars slots 0).getD "",
      (List.range groups).map fun i => slotText chars slots (i + 1))

def backtracking : Engine := fun source =>
  match readExpr source with
  | .ok e => .ok (searchProgram e.compile e.groups)
  | .error reason => .error reason.message

end PathRouting.Regex
