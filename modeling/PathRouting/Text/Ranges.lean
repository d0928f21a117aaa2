/-!
# Sets of code points

A set of characters given by the inclusive ranges of their code points.
-/

namespace PathRouting.Text

abbrev Ranges := Array (Nat × Nat)

def Ranges.holds (ranges : Ranges) (code : Nat) : Bool :=
  ranges.any fun range => range.1 ≤ code && code ≤ range.2

end PathRouting.Text
