import PathRouting.Text.Utf8

/-!
# Lexemes of a pattern

A pattern is cut into maximal runs of plain text, tokens and parentheses.  A token takes the
question mark and the slash written right after it, a closing parenthesis the question mark.  A
colon without a word character behind it is plain text.
-/

namespace PathRouting.Pattern

open PathRouting.Text (isWordChar)

/-- What a stretch of a pattern is. -/
inductive Mark where
  | text (chars : List Char)
  | token (name : List Char) (optional : Bool)
  | opening
  | closing
  deriving DecidableEq

/-- A stretch of a pattern and the byte it starts at. -/
structure Lexeme where
  start : Nat
  mark : Mark
  deriving DecidableEq

namespace Lexeme

/-- Puts one character of plain text in front of what follows it. -/
def consText (start : Nat) (c : Char) : List Lexeme → List Lexeme
  | ⟨_, .text chars⟩ :: rest => ⟨start, .text (c :: chars)⟩ :: rest
  | rest => ⟨start, .text [c]⟩ :: rest

def startsWith (c : Char) : List Char → Bool
  | d :: _ => c == d
  | [] => false

/-- The token that begins behind a colon: its name, whether it is optional, and how many
characters it takes. -/
def token? (chars : List Char) : Option (List Char × Bool × Nat) :=
  match chars.takeWhile isWordChar with
  | [] => none
  | name =>
      let rest := chars.drop name.length
      let optional := startsWith '?' rest
      let rest := rest.drop optional.toNat
      some (name, optional, name.length + optional.toNat + (startsWith '/' rest).toNat)

/-- The lexemes of some characters, of which the first `skip` belong to the lexeme before them;
`start` is the byte the characters start at. -/
def scan (start : Nat) : Nat → List Char → List Lexeme
  | _, [] => []
  | skip + 1, c :: chars => scan (start + c.utf8Size) skip chars
  | 0, c :: chars =>
      let next := start + c.utf8Size
      if c = '(' then ⟨start, .opening⟩ :: scan next 0 chars
      else if c = ')' then ⟨start, .closing⟩ :: scan next (startsWith '?' chars).toNat chars
      else if c = ':' then
        match token? chars with
        | some (name, optional, width) => ⟨start, .token name optional⟩ :: scan next width chars
        | none => consText start c (scan next 0 chars)
      else consText start c (scan next 0 chars)

end Lexeme

def lexemes (pattern : String) : List Lexeme :=
  Lexeme.scan 0 0 pattern.toList

end PathRouting.Pattern
