import PathRouting.Regex.Normal

/-!
# Programs of regular expressions

An expression is compiled into instructions with two-way splits, of which the first way is tried
first.  A repeated expression that may match the empty text is compiled as an optional one that is
repeated at least once, so that the order of choices is kept.
-/

namespace PathRouting.Regex

inductive Inst where
  | char (c : Char)
  | one (s : CharSet)
  | look (l : Look)
  | save (slot : Nat)
  | split (first second : Nat)
  | jump (target : Nat)
  | accept

namespace Expr

/-- A split that prefers its first target if it is greedy, else its second. -/
def choice (greedy : Bool) (first second : Nat) : Inst :=
  if greedy then .split first second else .split second first

/-- How many instructions an expression takes. -/
def size : Expr → Nat
  | empty => 0
  | text chars => chars.length
  | one _ | look _ => 1
  | group _ e => e.size + 2
  | seq a b => a.size + b.size
  | alt a b => a.size + b.size + 2
  | repetition e least none _ => if least = 0 then e.size + 2 else least * e.size + 1
  | repetition e least (some most) _ => least * e.size + (most - least) * (e.size + 1)

/-- Takes a step some number of times. -/
def times {α : Type} (step : α → α) : Nat → α → α
  | 0, a => a
  | n + 1, a => times step n (step a)

def emit : Expr → Array Inst → Array Inst
  | empty, code => code
  | text chars, code => chars.foldl (fun code c => code.push (.char c)) code
  | one s, code => code.push (.one s)
  | look l, code => code.push (.look l)
  | group index e, code => (e.emit (code.push (.save (2 * index)))).push (.save (2 * index + 1))
  | seq a b, code => b.emit (a.emit code)
  | alt a b, code =>
      let second := code.size + a.size + 2
      let code := a.emit (code.push (.split (code.size + 1) second))
      b.emit (code.push (.jump (second + b.size)))
  | repetition e least none greedy, code =>
      if least = 0 then
        let start := code.size
        let loop := choice greedy (start + 1) (start + e.size + 2)
        (e.emit (code.push loop)).push (if e.canBeEmpty then loop else .jump start)
      else
        let code := times e.emit least code
        code.push (choice greedy (code.size - e.size) (code.size + 1))
  | repetition e least (some most) greedy, code =>
      let code := times e.emit least code
      let stop := code.size + (most - least) * (e.size + 1)
      times (fun code => e.emit (code.push (choice greedy (code.size + 1) stop)))
        (most - least) code

/-- The program of an expression; the slots 0 and 1 hold the ends of the whole match. -/
def compile (e : Expr) : Array Inst :=
  (group 0 e).emit #[] |>.push .accept

end Expr

end PathRouting.Regex
