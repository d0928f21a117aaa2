import PathRouting.Regex.Expr

/-!
# Normal forms of regular expressions

Constructors that bring an expression into a normal form without changing what it matches:
sequences and alternatives are flat, texts that follow each other are one text, single characters
and sets that are alternatives are one set, and what all alternatives begin with is written once
in front of them.
-/

namespace PathRouting.Regex.Expr

/-! ## Sets and sequences -/

/-- One character of a set; a set of one character is a text. -/
def ofSet (s : CharSet) : Expr :=
  match s.single? with
  | some c => text [c]
  | none => one s

def parts : Expr → List Expr
  | empty => []
  | seq a b => a.parts ++ b.parts
  | e => [e]

def joinTexts : List Expr → List Expr
  | [] => []
  | text chars :: es =>
      match joinTexts es with
      | text more :: others => text (chars ++ more) :: others
      | others => text chars :: others
  | e :: es => e :: joinTexts es

def row : List Expr → Expr
  | [] => empty
  | [e] => e
  | e :: es => seq e (row es)

def sequence (es : List Expr) : Expr :=
  row (joinTexts (es.flatMap parts))

/-! ## Alternatives -/

def choices : Expr → List Expr
  | alt a b => a.choices ++ b.choices
  | e => [e]

/-- Alternatives as they are, the first one first. -/
def fork : List Expr → Expr
  | [] => one .nothing
  | [e] => e
  | e :: es => alt e (fork es)

/-- The characters of alternatives that are texts of one character each. -/
def singles? : List Expr → Option (List Char)
  | [] => some []
  | text [c] :: es => (singles? es).map (c :: ·)
  | _ => none

def unionOfSets? : List Expr → Option CharSet
  | [] => some .nothing
  | one s :: es => (unionOfSets? es).map s.union
  | _ => none

/-- What two lists begin with. -/
def sharedStart : List Expr → List Expr → List Expr
  | a :: as, b :: bs => if a = b then a :: sharedStart as bs else []
  | _, _ => []

/-- The parts of an expression that is a sequence; any other has none. -/
def sequenceParts : Expr → List Expr
  | seq a b => a.parts ++ b.parts
  | _ => []

/-- The parts that all alternatives begin with. -/
def sharedParts : List Expr → List Expr
  | [] => []
  | e :: es => es.foldl (fun shared e => sharedStart shared e.sequenceParts) e.sequenceParts

def partCount : Expr → Nat
  | empty | text _ | one _ | look _ => 1
  | group _ e | repetition e _ _ _ => e.partCount + 1
  | seq a b | alt a b => a.partCount + b.partCount

/-- Alternatives, the first one first; `fuel` bounds how often a shared start is looked for. -/
def alternativesWithin : Nat → List Expr → Expr
  | 0, es => fork (es.flatMap choices)
  | fuel + 1, es =>
      let all := es.flatMap choices
      if all.length ≤ 1 then fork all
      else match singles? all, unionOfSets? all, sharedParts all with
        | some chars, _, _ => ofSet (.ofChars chars)
        | none, some s, _ => ofSet s
        | none, none, [] => fork all
        | none, none, shared =>
            sequence (shared ++
              [alternativesWithin fuel
                (all.map fun e => sequence (e.sequenceParts.drop shared.length))])

def alternatives (es : List Expr) : Expr :=
  alternativesWithin (es.foldl (fun n e => n + e.partCount) 0) es

/-! ## Repetitions -/

/-- A repetition: none at all is the empty expression, and an expression that only matches the
empty text need not be repeated. -/
def repeated (e : Expr) (least : Nat) (most : Option Nat) (greedy : Bool) : Expr :=
  let (least, most) := if e.isOnlyEmpty then (min least 1, some (min (most.getD 1) 1))
    else (least, most)
  if most = some 0 then empty
  else if least = 1 && most = some 1 then e
  else repetition e least most greedy

end PathRouting.Regex.Expr
