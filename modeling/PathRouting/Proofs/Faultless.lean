import PathRouting.Proofs.Pattern.InRange
import PathRouting.Proofs.Pattern.Offsets
import PathRouting.Template

/-!
# Nothing faults

Templates filled from what the reader builds, with a fault at a group inside a group.  With the
reader that cuts a pattern by its bytes and the search that checks every number it uses, that is all
that can go wrong with a pattern, a path or a template; and it never does.
-/

namespace PathRouting

open PathRouting.Pattern

namespace Pattern.Node

/-- What a group holds, filled from a bag, if all of it can be.  A group in it is a fault. -/
def expandGroupChecked (bag : Bag) : List Node → Option (Option (List Char))
  | [] => some (some [])
  | .literal text :: nodes => (expandGroupChecked bag nodes).map (·.map (text.toList ++ ·))
  | .token name _ :: nodes =>
      match bag.present? name with
      | none => some none
      | some value =>
          (expandGroupChecked bag nodes).map (·.map (value.display.toList ++ ['/'] ++ ·))
  | .group _ :: _ => none

/-- Nodes filled from a bag up to the first that cannot be. -/
def expandChecked (bag : Bag) : List Node → Option (List Char)
  | [] => some []
  | .literal text :: nodes => (expandChecked bag nodes).map (text.toList ++ ·)
  | .token name _ :: nodes =>
      match bag.present? name with
      | none => some []
      | some value => (expandChecked bag nodes).map (value.display.toList ++ ['/'] ++ ·)
  | .group body :: nodes =>
      match expandGroupChecked bag body with
      | none => none
      | some none => some []
      | some (some chars) => (expandChecked bag nodes).map (chars ++ ['/'] ++ ·)

theorem expandGroupChecked_ofPiece (bag : Bag) (body : List Piece) :
    expandGroupChecked bag (body.map .ofPiece) = some (Piece.expandAll? bag body) := by
  induction body with
  | nil => rfl
  | cons p body ih =>
    cases p with
    | literal text =>
      simp only [List.map_cons, ofPiece, expandGroupChecked, ih, Piece.expandAll?, Piece.expand?]
      cases Piece.expandAll? bag body <;> rfl
    | token name optional =>
      simp only [List.map_cons, ofPiece, expandGroupChecked, ih, Piece.expandAll?, Piece.expand?]
      cases bag.present? name with
      | none => rfl
      | some value => cases Piece.expandAll? bag body <;> rfl

/-- A reader that keeps groups out of groups leaves nothing to fault on. -/
theorem expandChecked_ofSegment (bag : Bag) (segments : List Segment) :
    expandChecked bag (segments.map .ofSegment) =
      some (Segment.expandUntilMissed bag segments) := by
  induction segments with
  | nil => rfl
  | cons s segments ih =>
    match s with
    | .piece (.literal text) =>
      simp only [List.map_cons, ofSegment, ofPiece, expandChecked, ih, Segment.expandUntilMissed,
        Segment.expand?, Piece.expand?]
      rfl
    | .piece (.token name optional) =>
      simp only [List.map_cons, ofSegment, ofPiece, expandChecked, ih, Segment.expandUntilMissed,
        Segment.expand?, Piece.expand?]
      cases bag.present? name <;> rfl
    | .group body =>
      simp only [List.map_cons, ofSegment, expandChecked, expandGroupChecked_ofPiece, ih,
        Segment.expandUntilMissed, Segment.expand?]
      cases Piece.expandAll? bag body <;> rfl

example : expandChecked ∅ [.group [.group []]] = none := rfl

end Pattern.Node

/-- Reads a template by its bytes and fills it.  No result at all is a fault. -/
def synthesizeChecked (source : String) (bag : Bag) : Option (Except PatternError String) :=
  match parseChecked source with
  | none => none
  | some (.error e) => some (.error e)
  | some (.ok nodes) =>
      (Node.expandChecked bag nodes).map fun chars =>
        .ok (String.ofList (collapseSlashes false chars))

theorem synthesizeChecked_eq (source : String) (bag : Bag) :
    synthesizeChecked source bag = some (synthesize source bag) := by
  rw [synthesizeChecked, parseChecked_eq, synthesize, Template.parse]
  cases Pattern.parse source with
  | error e => rfl
  | ok segments =>
    simp only [Except.map, Node.expandChecked_ofSegment]
    rfl

/-- No pattern or template makes reading fault, no path makes matching fault against anything that
a pattern can be compiled to, and no data makes filling a template fault; and each does what it does
without checks. -/
theorem parse_match_and_expand_never_fault :
    (∀ source, parseChecked source = some ((Pattern.parse source).map (·.map .ofSegment))) ∧
    (∀ segments path, (Program.compile segments).capturesChecked path =
      some ((Program.compile segments).captures path)) ∧
    ∀ source bag, synthesizeChecked source bag = some (synthesize source bag) := by
  refine ⟨parseChecked_eq, fun segments path => ?_, synthesizeChecked_eq⟩
  have isSealed := Program.sealed_compile segments
  exact isSealed.capturesChecked path

end PathRouting
