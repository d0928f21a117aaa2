import PathRouting.Regex.Error
import PathRouting.Regex.Expr

/-!
# Escapes of a regular expression

What a backslash and the characters behind it stand for: a character, a set, or a condition.
-/

namespace PathRouting.Regex

/-- What an escape stands for. -/
inductive Escape where
  | char (c : Char)
  | charSet (s : CharSet)
  | look (l : Look)

namespace Escape

/-- Whether a punctuation character may be written behind a backslash. -/
def isEscapable (c : Char) : Bool :=
  c.toNat < 0x80 && !c.isAlphanum && c != '<' && c != '>'

def hexValue? (c : Char) : Option Nat :=
  if c.isDigit then some (c.toNat - '0'.toNat)
  else if 'a' ≤ c && c ≤ 'f' then some (c.toNat - 'a'.toNat + 10)
  else if 'A' ≤ c && c ≤ 'F' then some (c.toNat - 'A'.toNat + 10)
  else none

def ofCode (digits : List Char) : Except ReadError Escape :=
  match digits.mapM hexValue? with
  | none | some [] => .error .badEscape
  | some values =>
      let code := values.foldl (fun n d => 16 * n + d) 0
      if h : code.isValidChar then .ok (.char (Char.ofNatAux code h)) else .error .badEscape

/-- Reads a code of `width` digits or one in braces. -/
def code (width : Nat) : List Char → Except ReadError (Escape × List Char)
  | '\x7b' :: chars =>
      match chars.dropWhile (· != '\x7d') with
      | _ :: rest => do return (← ofCode (chars.takeWhile (· != '\x7d')), rest)
      | [] => .error .badEscape
  | chars =>
      if chars.length < width then .error .badEscape
      else do return (← ofCode (chars.take width), chars.drop width)

/-- Reads what stands behind a backslash. -/
def read : List Char → Except ReadError (Escape × List Char)
  | [] => .error .badEscape
  | 'd' :: rest => .ok (.charSet .digit, rest)
  | 'D' :: rest => .ok (.charSet CharSet.digit.complement, rest)
  | 'w' :: rest => .ok (.charSet .word, rest)
  | 'W' :: rest => .ok (.charSet CharSet.word.complement, rest)
  | 's' :: rest => .ok (.charSet .blank, rest)
  | 'S' :: rest => .ok (.charSet CharSet.blank.complement, rest)
  | 'b' :: rest => .ok (.look .wordBoundary, rest)
  | 'B' :: rest => .ok (.look .noWordBoundary, rest)
  | '<' :: rest => .ok (.look .wordStart, rest)
  | '>' :: rest => .ok (.look .wordEnd, rest)
  | 'A' :: rest => .ok (.look .textStart, rest)
  | 'z' :: rest => .ok (.look .textEnd, rest)
  | 'a' :: rest => .ok (.char (Char.ofNat 7), rest)
  | 'f' :: rest => .ok (.char (Char.ofNat 12), rest)
  | 'v' :: rest => .ok (.char (Char.ofNat 11), rest)
  | 'n' :: rest => .ok (.char '\n', rest)
  | 'r' :: rest => .ok (.char '\r', rest)
  | 't' :: rest => .ok (.char '\t', rest)
  | 'x' :: rest => code 2 rest
  | 'u' :: rest => code 4 rest
  | 'U' :: rest => code 8 rest
  | c :: rest => if isEscapable c then .ok (.char c, rest) else .error .badEscape

end Escape

end PathRouting.Regex
