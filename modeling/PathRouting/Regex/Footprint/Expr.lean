import PathRouting.Regex.Footprint.Backward
import PathRouting.Regex.Footprint.Forward
import PathRouting.Regex.Footprint.TextTree
import PathRouting.Regex.Normal
import PathRouting.Text.Utf8

/-!
# The room of an expression

An expression becomes two byte automata: one that reads a text forward and notes what the groups
capture, and one that reads it backward and notes nothing.  Neither may take too much room.
-/

namespace PathRouting.Regex

open PathRouting.Text (utf8)

/-- The way an automaton reads a text. -/
inductive Direction where
  | forward
  | backward
  deriving DecidableEq

/-- Where an expression stands among alternatives. -/
inductive Standing where
  /-- By itself, or as the first alternative. -/
  | first
  | second
  | later

namespace Footprint

/-- Adds what joins an alternative to those before it. -/
def addStanding (standing : Standing) (f : Footprint) : Footprint :=
  match standing with
  | .first => f
  | .second => (f.addUnion 2).addStates 1
  | .later => f.addEdges 1

def addSet (direction : Direction) (s : CharSet) (f : Footprint) : Footprint :=
  if f.isTooLarge then f
  else if s.isAscii then (f.addStates 1).addArcs s.ranges.length
  else match direction with
    | .forward => ForwardStates.ofSet s f
    | .backward => BackwardStates.ofSet s f

end Footprint

namespace Expr

def textBytes (chars : List Char) : List Nat :=
  (utf8 (String.ofList chars)).map (·.toNat)

def texts? : Expr → Option (List (List Nat))
  | text chars => some [textBytes chars]
  | alt a b => do return (← a.texts?) ++ (← b.texts?)
  | _ => none

def addTo (direction : Direction) : Expr → Standing → Footprint → Footprint
  | empty, standing, f | look _, standing, f => (f.addStates 1).addStanding standing
  | text chars, standing, f => (f.addStates (textBytes chars).length).addStanding standing
  | one s, standing, f => (f.addSet direction s).addStanding standing
  | group _ e, standing, f =>
      (match direction with
        | .forward => (e.addTo direction .first (f.addStates 1)).addStates 1
        | .backward => e.addTo direction .first f).addStanding standing
  | seq a b, standing, f =>
      (match direction with
        | .forward => b.addTo direction .first (a.addTo direction .first f)
        | .backward => a.addTo direction .first (b.addTo direction .first f)).addStanding standing
  | alt a b, standing, f =>
      match standing, (alt a b).texts? with
      | .first, some texts => f.addTexts texts
      | .first, none => b.addTo direction .second (a.addTo direction .first f)
      | standing, _ =>
          b.addTo direction .later ((a.addTo direction .first f).addStanding standing)
  | repetition e least most _, standing, f =>
      let once := e.addTo direction .first
      (match least, most with
        | 0, some 1 => (once (f.addUnion 2)).addStates 1
        | 0, none =>
            if e.canBeEmpty then (((once f).addUnion 2).addUnion 2).addStates 1
            else once (f.addUnion 2)
        | n, none => (f.addTimes once n).addUnion 2
        | n, some m =>
            let f := if n = 0 then f.addStates 1 else f.addTimes once n
            if n = m then f else (f.addStates 1).addTimes (fun f => once (f.addUnion 2)) (m - n))
      |>.addStanding standing

/-- The automaton of an expression.  Unless every match begins where reading begins, it goes on
from one place to the next; it ends in a state that accepts. -/
def footprint (direction : Direction) (e : Expr) : Footprint :=
  let isAnchored := match direction with
    | .forward => e.isAnchoredStart
    | .backward => e.isAnchoredEnd
  let start := if isAnchored then Footprint.empty.addStates 1
    else ((Footprint.empty.addUnion 2).addStates 1).addArcs 1
  ((match direction with
    | .forward => (group 0 e).addTo direction .first start
    | .backward => e.addTo direction .first start)).addStates 1

/-- Whether the automata of an expression take no more room than they may. -/
def fits (e : Expr) : Bool :=
  !(e.footprint .backward).isTooLarge && !(e.footprint .forward).isTooLarge

end Expr

end PathRouting.Regex
