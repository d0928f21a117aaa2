import PathRouting.Regex.CharSet

/-!
# Regular expressions

The structure of a regular expression once its flags are resolved.
-/

namespace PathRouting.Regex

/-- A condition on the place between two characters. -/
inductive Look where
  | textStart
  | textEnd
  | lineStart
  | lineEnd
  | wordBoundary
  | noWordBoundary
  | wordStart
  | wordEnd
  deriving DecidableEq

inductive Expr where
  | empty
  /-- Characters in a row, each of which stands for itself. -/
  | text (chars : List Char)
  | one (s : CharSet)
  | look (l : Look)
  /-- A group that captures what it matches. -/
  | group (index : Nat) (e : Expr)
  | seq (a b : Expr)
  /-- The first alternative is tried first. -/
  | alt (a b : Expr)
  /-- From `least` to `most` times; the greedy form tries more before fewer. -/
  | repetition (e : Expr) (least : Nat) (most : Option Nat) (greedy : Bool)
  deriving DecidableEq

namespace Expr

/-- How many characters an expression matches at the least; `none` if it may match nothing at
all, not even the empty text. -/
def leastLength? : Expr → Option Nat
  | empty | look _ => some 0
  | text chars => some chars.length
  | one s => if s = .nothing then none else some 1
  | group _ e => e.leastLength?
  | seq a b => do return (← a.leastLength?) + (← b.leastLength?)
  | alt a b => do return min (← a.leastLength?) (← b.leastLength?)
  | repetition e least _ _ => do return least * (← e.leastLength?)

/-- Whether an expression may match the empty text, as far as its length tells. -/
def canBeEmpty (e : Expr) : Bool :=
  e.leastLength?.getD 0 == 0

/-- Whether an expression matches nothing but the empty text. -/
def isOnlyEmpty : Expr → Bool
  | empty | look _ => true
  | text _ | one _ => false
  | group _ e => e.isOnlyEmpty
  | seq a b | alt a b => a.isOnlyEmpty && b.isOnlyEmpty
  | repetition e _ most _ => most == some 0 || e.isOnlyEmpty

/-- Whether every match begins at the start of the text, by the shape of an expression. -/
def isAnchoredStart : Expr → Bool
  | look l => l == .textStart
  | empty | text _ | one _ => false
  | group _ e => e.isAnchoredStart
  | seq a b => a.isAnchoredStart || (a.isOnlyEmpty && b.isAnchoredStart)
  | alt a b => a.isAnchoredStart && b.isAnchoredStart
  | repetition e least _ _ => 0 < least && e.isAnchoredStart

/-- Whether every match stops at the end of the text, by the shape of an expression. -/
def isAnchoredEnd : Expr → Bool
  | look l => l == .textEnd
  | empty | text _ | one _ => false
  | group _ e => e.isAnchoredEnd
  | seq a b => b.isAnchoredEnd || (b.isOnlyEmpty && a.isAnchoredEnd)
  | alt a b => a.isAnchoredEnd && b.isAnchoredEnd
  | repetition e least _ _ => 0 < least && e.isAnchoredEnd

/-- The greatest number of a group. -/
def groups : Expr → Nat
  | empty | text _ | one _ | look _ => 0
  | group index e => max index e.groups
  | seq a b | alt a b => max a.groups b.groups
  | repetition e _ _ _ => e.groups

end Expr

end PathRouting.Regex
