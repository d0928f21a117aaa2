import PathRouting.Bag
import PathRouting.Pattern.Reading

/-!
# Templates

A pattern read backwards: its tokens are filled from a data bag and a path comes out.  The path
stops before the first element that cannot be filled, so it is always a usable start of the whole
path, and it never holds two slashes in a row.
-/

namespace PathRouting

open PathRouting.Pattern

/-- Keeps one slash of each run of slashes; `afterSlash` says that a slash stands in front. -/
def collapseSlashes (afterSlash : Bool) : List Char → List Char
  | [] => []
  | c :: cs =>
      if c == '/' && afterSlash then collapseSlashes true cs
      else c :: collapseSlashes (c == '/') cs

namespace Pattern

/-- A piece filled from a bag; a token is followed by a slash. -/
def Piece.expand? (bag : Bag) : Piece → Option (List Char)
  | .literal text => some text.toList
  | .token name _ => (bag.present? name).map fun value => value.display.toList ++ ['/']

/-- Pieces filled from a bag, if all of them can be. -/
def Piece.expandAll? (bag : Bag) : List Piece → Option (List Char)
  | [] => some []
  | p :: ps => do return (← p.expand? bag) ++ (← expandAll? bag ps)

/-- A segment filled from a bag; a group is followed by a slash. -/
def Segment.expand? (bag : Bag) : Segment → Option (List Char)
  | .piece p => p.expand? bag
  | .group body => (Piece.expandAll? bag body).map (· ++ ['/'])

/-- Segments filled from a bag up to the first one that cannot be. -/
def Segment.expandUntilMissed (bag : Bag) : List Segment → List Char
  | [] => []
  | s :: ss =>
      match s.expand? bag with
      | some chars => chars ++ expandUntilMissed bag ss
      | none => []

end Pattern

/-- A pattern that paths are written from. -/
structure Template where
  source : String
  segments : List Segment

namespace Template

def parse (source : String) : Except PatternError Template := do
  return ⟨source, ← Pattern.parse source⟩

def tokens (template : Template) : List String :=
  tokenNames template.segments

def expand (template : Template) (bag : Bag) : String :=
  String.ofList (collapseSlashes false (Segment.expandUntilMissed bag template.segments))

end Template

/-- Reads a template and fills it. -/
def synthesize (source : String) (bag : Bag) : Except PatternError String := do
  return (← Template.parse source).expand bag

end PathRouting
