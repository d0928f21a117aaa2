import PathRouting.Regex.Bracket
import PathRouting.Regex.Footprint.Expr
import PathRouting.Text.NameRanges

/-!
# Reading regular expressions

An expression is read in one pass, with the groups that are still open on a list.  `readExpr`
refuses what is nested too deeply or takes too much room once it is compiled.
-/

namespace PathRouting.Regex

/-! ## Parts of an expression -/

/-- A part of an expression and how deep its operators are nested. -/
structure Part where
  expr : Expr
  height : Nat
  /-- Whether a repetition may follow; it may not follow flags. -/
  repeatable : Bool := true

namespace Part

/-- The most operators that may be nested. -/
def maxHeight : Nat := 250

def sequence : List Part → Part
  | [] => ⟨.empty, 0, false⟩
  | [p] => p
  | p :: parts =>
      ⟨.sequence ((p :: parts).map (·.expr)),
        1 + (p :: parts).foldl (fun h q => max h q.height) 0, true⟩

def alternatives (first : Part) : List Part → Part
  | [] => first
  | parts =>
      let all := first :: parts
      ⟨.alternatives (all.map (·.expr)), 1 + all.foldl (fun h q => max h q.height) 0, true⟩

def ofSet (s : CharSet) : Part := ⟨.ofSet s, 0, true⟩

end Part

/-! ## Counts of a repetition -/

/-- The greatest count of a repetition. -/
def maxCount : Nat := 1 <<< 32 - 1

def dropBlanks (chars : List Char) : List Char := chars.dropWhile CharSet.blank.holds

/-- Reads a count with blanks around it; `none` if there are no digits. -/
def count (chars : List Char) : Except ReadError (Option Nat × List Char) :=
  let chars := dropBlanks chars
  let digits := chars.takeWhile Char.isDigit
  let n := digits.foldl (fun n c => 10 * n + (c.toNat - '0'.toNat)) 0
  let rest := dropBlanks (chars.dropWhile Char.isDigit)
  if digits.isEmpty then .ok (none, rest)
  else if n ≤ maxCount then .ok (some n, rest)
  else .error .badCount

/-- Reads the bounds of a repetition behind an opening brace. -/
def bounds (chars : List Char) : Except ReadError ((Nat × Option Nat) × List Char) := do
  let (least, rest) ← count chars
  match least, rest with
  | some n, '\x7d' :: rest => return ((n, some n), rest)
  | some n, ',' :: '\x7d' :: rest => return ((n, none), rest)
  | some n, ',' :: rest =>
      match ← count rest with
      | (some m, '\x7d' :: rest) => if n ≤ m then return ((n, some m), rest) else throw .badCount
      | _ => throw .badCount
  | _, _ => throw .badCount

/-! ## Groups and operators -/

/-- How far reading has come: the characters left, the flags in force, the number of groups so
far and their names. -/
structure Progress where
  rest : List Char
  flags : Flags := {}
  groups : Nat := 0
  names : List String := []

def beginsName (c : Char) : Bool := c == '_' || Text.letterRanges.holds c.toNat

/-- Whether a character may stand inside the name of a group. -/
def continuesName (c : Char) : Bool :=
  beginsName c || c == '.' || c == '[' || c == ']' || Text.numberRanges.holds c.toNat

def isName : List Char → Bool
  | [] => false
  | c :: more => beginsName c && more.all continuesName

/-- Reads the name of a group up to the angle bracket behind it. -/
def groupName (p : Progress) (chars : List Char) : Except ReadError (String × List Char) :=
  let name := chars.takeWhile (· != '>')
  match chars.dropWhile (· != '>') with
  | [] => .error .badGroupName
  | _ :: rest =>
      if !isName name then .error .badGroupName
      else if String.ofList name ∈ p.names then .error (.duplicateGroupName (String.ofList name))
      else .ok (String.ofList name, rest)

/-- Reads an operator behind the last part, the laziness mark included. -/
def applyRepeat (p : Progress) (parts : List Part) (least : Nat) (most : Option Nat)
    (rest : List Char) : Except ReadError (List Part × Progress) :=
  let (isLazy, rest) := match rest with
    | '?' :: rest => (true, rest)
    | rest => (false, rest)
  match parts with
  | part :: parts =>
      if part.repeatable then
        let greedy := isLazy == p.flags.lazyByDefault
        let part := ⟨part.expr.repeated least most greedy, part.height + 1, true⟩
        .ok (part :: parts, { p with rest })
      else .error .nothingToRepeat
  | [] => .error .nothingToRepeat

/-- Reads one character or escape that stands for itself or a set or a condition. -/
def atom (flags : Flags) (chars : List Char) : Except ReadError (Part × List Char) :=
  match chars with
  | '\\' :: rest => do
      match ← Escape.read rest with
      | (.char c, rest) => return (.ofSet ((CharSet.single c).fold flags), rest)
      | (.charSet s, rest) => return (.ofSet s, rest)
      | (.look l, rest) => return (⟨.look l, 0, true⟩, rest)
  | '.' :: rest =>
      let set := if flags.dotMatchesNewline then .any else (CharSet.single '\n').complement
      .ok (.ofSet set, rest)
  | '^' :: rest => .ok (⟨.look (if flags.multiLine then .lineStart else .textStart), 0, true⟩, rest)
  | '$' :: rest => .ok (⟨.look (if flags.multiLine then .lineEnd else .textEnd), 0, true⟩, rest)
  | '[' :: rest => do
      let (o, rest) := OpenClass.start rest
      let (s, height, rest) ← classBody flags (rest.length + 1) [o] rest
      return (⟨.ofSet s, height, true⟩, rest)
  | c :: rest => .ok (.ofSet ((CharSet.single c).fold flags), rest)
  | [] => .error .unclosedGroup

/-- What an opening parenthesis begins. -/
inductive Opening where
  | flags
  /-- A group, with its number if it captures, and the flags to restore behind it. -/
  | group (index : Option Nat) (restore : Flags)

def opening (p : Progress) : List Char → Except ReadError (Opening × Progress)
  | '?' :: '=' :: _ | '?' :: '!' :: _ | '?' :: '<' :: '=' :: _ | '?' :: '<' :: '!' :: _ =>
      .error .lookAround
  | '?' :: 'P' :: '<' :: chars | '?' :: '<' :: chars => do
      let (name, rest) ← groupName p chars
      let groups := p.groups + 1
      return (.group (some groups) p.flags, { p with rest, groups, names := name :: p.names })
  | '?' :: chars => do
      let (flags, isGroup, rest) ← readFlags [] true p.flags chars
      return (if isGroup then .group none p.flags else .flags, { p with rest, flags })
  | rest =>
      let groups := p.groups + 1
      .ok (.group (some groups) p.flags, { p with rest, groups })

/-- A group that is open: its opening, the alternatives before the current one and the parts of
the current one, all last first. -/
structure Level where
  index : Option Nat
  restore : Flags
  done : List Part := []
  parts : List Part := []

namespace Level

/-- Everything a level holds, as one part. -/
def part (level : Level) : Part :=
  match (Part.sequence level.parts.reverse :: level.done).reverse with
  | [] => Part.sequence []
  | first :: others => Part.alternatives first others

def closed (level : Level) : Part :=
  let inner := level.part
  ⟨(match level.index with
    | some index => .group index inner.expr
    | none => inner.expr), inner.height + 1, true⟩

end Level

/-- Reads an expression; `level` is the innermost open group and `outer` those around it. -/
def body : Nat → Level → List Level → Progress → Except ReadError (Part × Progress)
  | 0, _, _, _ => .error .tooDeep
  | fuel + 1, level, outer, p =>
      match p.rest with
      | [] => if outer.isEmpty then .ok (level.part, p) else .error .unclosedGroup
      | '(' :: rest => do
          match ← opening p rest with
          | (.flags, p) =>
              body fuel { level with parts := ⟨.empty, 0, false⟩ :: level.parts } outer p
          | (.group index restore, p) => body fuel { index, restore } (level :: outer) p
      | ')' :: rest =>
          match outer with
          | [] => .error .unopenedGroup
          | next :: outer =>
              body fuel { next with parts := level.closed :: next.parts } outer
                { p with rest, flags := level.restore }
      | '|' :: rest =>
          body fuel { level with
            done := Part.sequence level.parts.reverse :: level.done, parts := [] } outer
            { p with rest }
      | '*' :: rest => do
          let (parts, p) ← applyRepeat p level.parts 0 none rest
          body fuel { level with parts } outer p
      | '+' :: rest => do
          let (parts, p) ← applyRepeat p level.parts 1 none rest
          body fuel { level with parts } outer p
      | '?' :: rest => do
          let (parts, p) ← applyRepeat p level.parts 0 (some 1) rest
          body fuel { level with parts } outer p
      | '\x7b' :: rest => do
          if level.parts.isEmpty then throw .nothingToRepeat
          let ((least, most), rest) ← bounds rest
          let (parts, p) ← applyRepeat p level.parts least most rest
          body fuel { level with parts } outer p
      | chars => do
          let (part, rest) ← atom p.flags chars
          body fuel { level with parts := part :: level.parts } outer { p with rest }

def readExpr (source : String) : Except ReadError Expr := do
  let chars := source.toList
  let (part, _) ← body (chars.length + 1) { index := none, restore := {} } [] { rest := chars }
  if Part.maxHeight < part.height then throw .tooDeep
  if !part.expr.fits then throw .tooLarge
  return part.expr

end PathRouting.Regex
