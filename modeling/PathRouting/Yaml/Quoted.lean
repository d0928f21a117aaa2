import PathRouting.Json.Token
import PathRouting.Yaml.Lines

/-!
# Texts in quotes

How a text between double quotes is read in a YAML stream.  Lines are folded: the spaces around a
break are dropped, one break becomes a space, and of several the first is dropped.  A separator of
lines or paragraphs is kept where a line feed would become a space or be dropped.  A break behind
a backslash joins its lines with nothing between.
-/

namespace PathRouting.Yaml

/-! ## Folding -/

/-- What stands between the last character of a text and the next that is neither space nor
break. -/
inductive Gap where
  /-- Spaces, last first. -/
  | spaces (chars : List Char)
  /-- Breaks: the first, unless it is escaped, and the others, last first. -/
  | breaks (first : Option Char) (others : List Char)

/-- A text under way: its characters, last first, and the gap behind them. -/
structure Quoted where
  chars : List Char
  gap : Gap

namespace Quoted

/-- A text that has just begun. -/
def empty : Quoted := ⟨[], .spaces []⟩

/-- The characters with the gap folded, last first. -/
def folded (q : Quoted) : List Char :=
  match q.gap with
  | .spaces chars => chars ++ q.chars
  | .breaks (some '\n') [] => ' ' :: q.chars
  | .breaks (some '\n') others => others ++ q.chars
  | .breaks (some c) others => others ++ c :: q.chars
  | .breaks none others => others ++ q.chars

def push (q : Quoted) (c : Char) : Quoted :=
  ⟨c :: q.folded, .spaces []⟩

/-- Adds a space or tab, which is dropped behind a break. -/
def pushSpace (q : Quoted) (c : Char) : Quoted :=
  match q.gap with
  | .spaces chars => { q with gap := .spaces (c :: chars) }
  | .breaks _ _ => q

/-- Adds a break, which drops the spaces before it. -/
def pushBreak (q : Quoted) (c : Char) : Quoted :=
  match q.gap with
  | .spaces _ => { q with gap := .breaks (some c) [] }
  | .breaks first others => { q with gap := .breaks first (c :: others) }

/-- Adds a break behind a backslash. -/
def joinLines (q : Quoted) : Quoted :=
  ⟨q.folded, .breaks none []⟩

/-- Adds a character that is neither a quote nor a backslash. -/
def pushPlain (q : Quoted) (c : Char) : Quoted :=
  if isSpace c then q.pushSpace c
  else if isBreak c then q.pushBreak c
  else q.push c

/-- The text, once it is complete. -/
def text (q : Quoted) : String :=
  String.ofList q.folded.reverse

end Quoted

/-! ## Escapes -/

/-- What a letter behind a backslash stands for. -/
inductive Escape where
  | character (c : Char)
  /-- The code of a character follows in hexadecimal digits. -/
  | code (digits : Nat)

/-- Reads the letter behind a backslash. -/
def Escape.ofChar? : Char → Option Escape
  | '0' => some (.character '\x00')
  | 'a' => some (.character '\x07')
  | 't' | '\t' => some (.character '\t')
  | 'v' => some (.character '\x0b')
  | 'e' => some (.character '\x1b')
  | ' ' => some (.character ' ')
  | 'N' => some (.character '\u0085')
  | '_' => some (.character '\u00a0')
  | 'L' => some (.character '\u2028')
  | 'P' => some (.character '\u2029')
  | 'x' => some (.code 2)
  | 'u' => some (.code 4)
  | 'U' => some (.code 8)
  | c => (Json.Token.escaped? c).map .character

/-- The character of a code, unless the code is that of half a pair or too large. -/
def character? (code : Nat) : Option Char :=
  if code.isValidChar then some (Char.ofNat code) else none

end PathRouting.Yaml
