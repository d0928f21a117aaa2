import PathRouting.Regex.Escape
import PathRouting.Regex.Flags

/-!
# Classes in brackets

A class is written as characters, ranges, escapes, named classes and further brackets, joined by
operators.  `classBody` reads it with the brackets that are still open on a list.
-/

namespace PathRouting.Regex

/-- A class in brackets that is being read: the items so far, how many there are, how deep the
classes in them are nested, and the operator with its left side that waits for the right side. -/
structure OpenClass where
  isNegated : Bool
  items : CharSet := .nothing
  count : Nat := 0
  height : Nat := 0
  pending : Option (CharSet → CharSet) := none

namespace OpenClass

def add (o : OpenClass) (s : CharSet) (height : Nat) : OpenClass :=
  { o with
    items := o.items.union s
    count := o.count + 1
    height := max o.height height }

/-- The union of the items, joined with what waits for it. -/
def joined (flags : Flags) (o : OpenClass) : CharSet :=
  match o.pending with
  | none => o.items
  | some apply => apply (o.items.fold flags)

/-- Begins the right side of an operator. -/
def operator (flags : Flags) (o : OpenClass) (op : CharSet → CharSet → CharSet) : OpenClass :=
  { o with items := .nothing, count := 0, pending := some (op ((o.joined flags).fold flags)) }

/-- The finished class and its height. -/
def close (flags : Flags) (o : OpenClass) : CharSet × Nat :=
  let s := (o.joined flags).fold flags
  (if o.isNegated then s.complement else s, 1 + (if 1 < o.count then 1 else 0) + o.height)

/-- Reads what may stand right behind an opening bracket: a caret, dashes, and a closing bracket
that stands for itself. -/
def start (chars : List Char) : OpenClass × List Char :=
  let (isNegated, chars) := match chars with
    | '^' :: rest => (true, rest)
    | _ => (false, chars)
  let dashes := chars.takeWhile (· == '-')
  let chars := chars.dropWhile (· == '-')
  let opened := dashes.foldl (fun (o : OpenClass) c => o.add (.single c) 0) { isNegated }
  match dashes, chars with
  | [], ']' :: rest => (opened.add (.single ']') 0, rest)
  | _, _ => (opened, chars)

end OpenClass

def namedRanges? (name : String) : Option (List (Char × Char)) :=
  let upper := ('A', 'Z')
  let lower := ('a', 'z')
  let digit := ('0', '9')
  match name with
  | "alnum" => some [digit, upper, lower]
  | "alpha" => some [upper, lower]
  | "ascii" => some [(Char.ofNat 0, Char.ofNat 0x7F)]
  | "blank" => some [('\t', '\t'), (' ', ' ')]
  | "cntrl" => some [(Char.ofNat 0, Char.ofNat 0x1F), (Char.ofNat 0x7F, Char.ofNat 0x7F)]
  | "digit" => some [digit]
  | "graph" => some [('!', '~')]
  | "lower" => some [lower]
  | "print" => some [(' ', '~')]
  | "punct" => some [('!', '/'), (':', '@'), ('[', Char.ofNat 0x60), (Char.ofNat 0x7B, '~')]
  | "space" => some [(Char.ofNat 9, Char.ofNat 13), (' ', ' ')]
  | "upper" => some [upper]
  | "word" => some [digit, upper, ('_', '_'), lower]
  | "xdigit" => some [digit, ('A', 'F'), ('a', 'f')]
  | _ => none

/-- Reads the name of a class of ASCII characters up to its closing bracket, if one stands here. -/
def namedClass? (chars : List Char) : Option (CharSet × List Char) :=
  let (isNegated, chars) := match chars with
    | '^' :: rest => (true, rest)
    | _ => (false, chars)
  match chars.dropWhile (· != ':') with
  | ':' :: ']' :: rest => do
      let ranges ← namedRanges? (String.ofList (chars.takeWhile (· != ':')))
      let s := ranges.foldl (fun s r => CharSet.union s (.range r.1 r.2)) .nothing
      return (if isNegated then s.complement else s, rest)
  | _ => none

/-- Reads one item of a class: a character or an escape. -/
def classItem : List Char → Except ReadError (Escape × List Char)
  | [] => .error .unclosedClass
  | '\\' :: chars => Escape.read chars
  | c :: chars => .ok (.char c, chars)

/-- Reads an item of a class with the end of its range, if it begins one. -/
def classRange (chars : List Char) : Except ReadError (CharSet × List Char) := do
  let (first, rest) ← classItem chars
  let single : Except ReadError CharSet := match first with
    | .char c => .ok (.single c)
    | .charSet s => .ok s
    | .look _ => .error .badEscape
  match rest with
  | '-' :: c :: more =>
      if c = ']' || c = '-' then return (← single, rest)
      else match first, ← classItem (c :: more) with
        | .char low, (.char high, rest) =>
            if low ≤ high then return (.range low high, rest) else throw .badRange
        | _, _ => throw .badRange
  | ['-'] => throw .unclosedClass
  | [] => throw .unclosedClass
  | _ => return (← single, rest)

/-- Reads the classes that are open, the innermost first, up to the end of the outermost. -/
def classBody (flags : Flags) : Nat → List OpenClass → List Char →
    Except ReadError (CharSet × Nat × List Char)
  | 0, _, _ | _, [], _ | _, _, [] => .error .unclosedClass
  | fuel + 1, o :: outer, chars =>
      match chars with
      | '[' :: rest =>
          let named := match rest with
            | ':' :: name => namedClass? name
            | _ => none
          match named with
          | some (s, rest) => classBody flags fuel (o.add s 0 :: outer) rest
          | none =>
              let (inner, rest) := OpenClass.start rest
              classBody flags fuel (inner :: o :: outer) rest
      | ']' :: rest =>
          let (s, height) := o.close flags
          match outer with
          | [] => .ok (s, height, rest)
          | next :: outer => classBody flags fuel (next.add s height :: outer) rest
      | '&' :: '&' :: rest => classBody flags fuel (o.operator flags .both :: outer) rest
      | '-' :: '-' :: rest => classBody flags fuel (o.operator flags .without :: outer) rest
      | '~' :: '~' :: rest => classBody flags fuel (o.operator flags .either :: outer) rest
      | chars => do
          let (s, rest) ← classRange chars
          classBody flags fuel (o.add s 0 :: outer) rest

end PathRouting.Regex
