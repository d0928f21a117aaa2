/-!
# Segments of a pattern

What a pattern is made of: literals and tokens, on their own or in groups.  A group holds
literals and tokens only, so groups do not nest.
-/

namespace PathRouting.Pattern

inductive Piece where
  /-- Text that stands for itself. -/
  | literal (text : String)
  /-- A named place for a word. -/
  | token (name : String) (optional : Bool)
  deriving DecidableEq

inductive Segment where
  | piece (p : Piece)
  /-- Pieces that are matched or skipped as a unit. -/
  | group (body : List Piece)
  deriving DecidableEq

namespace Piece

def names : Piece → List String
  | literal _ => []
  | token name _ => [name]

end Piece

namespace Segment

/-- The names a segment declares, in the order they are written. -/
def names : Segment → List String
  | piece p => p.names
  | group body => body.flatMap Piece.names

end Segment

/-- The names that a list of segments declares, in the order they are written. -/
def tokenNames (segments : List Segment) : List String :=
  segments.flatMap Segment.names

@[simp] theorem tokenNames_nil : tokenNames [] = [] := rfl

@[simp] theorem tokenNames_cons (s : Segment) (segments : List Segment) :
    tokenNames (s :: segments) = s.names ++ tokenNames segments := by
  simp [tokenNames]

@[simp] theorem tokenNames_append (a b : List Segment) :
    tokenNames (a ++ b) = tokenNames a ++ tokenNames b := by
  simp [tokenNames]

end PathRouting.Pattern
