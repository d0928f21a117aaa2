import PathRouting.Yaml.Quoted

/-!
# Tokens of a YAML document

A document is cut into the same tokens as elsewhere, but lines matter: outside of all containers a
tab may not stand before the first token of a line, and the colon behind a key stands on the
key's line, no more than 1024 bytes behind the key's beginning.
-/

namespace PathRouting.Yaml

open PathRouting.Json (ReadError Token)

/-! ## The state of the scanner -/

/-- Where the scanner stands. -/
inductive Place where
  | between
  /-- Inside a word; its characters so far, last first. -/
  | word (chars : List Char)
  | text (q : Quoted)
  /-- Behind a backslash. -/
  | escape (q : Quoted)
  /-- Inside the code of a character, some of whose digits are still to come. -/
  | code (q : Quoted) (missing : Nat) (value : Nat)

/-- What has been read of a line. -/
inductive LinePart where
  | nothing
  /-- Nothing that a token is made of. -/
  | indent
  /-- A token or the mark that begins the document. -/
  | token
  deriving DecidableEq

structure Scan where
  place : Place
  line : LinePart
  /-- The number of open containers. -/
  depth : Nat
  /-- The bytes since the quote at the beginning of the last text on this line. -/
  sinceQuote : Option Nat
  /-- The tokens so far, last first. -/
  tokens : List Token

namespace Scan

/-- The most bytes from the beginning of a key to its colon. -/
def keyLimit : Nat := 1024

/-! ## Tokens -/

/-- Adds a token that is no text. -/
def push (scan : Scan) (token : Token) : Scan :=
  let depth := match token with
    | .openBrace | .openBracket => scan.depth + 1
    | .closeBrace | .closeBracket => scan.depth - 1
    | _ => scan.depth
  { scan with place := .between, line := .token, depth, tokens := token :: scan.tokens }

/-- Whether a colon that stands here belongs to the last text. -/
def reachesKey (scan : Scan) : Bool :=
  scan.sinceQuote.any (· ≤ keyLimit)

def pushMark (scan : Scan) (token : Token) : Except ReadError Scan :=
  match token with
  | .colon => if scan.reachesKey then .ok (scan.push token) else .error .lostColon
  | _ => .ok (scan.push token)

def beginText (scan : Scan) : Scan :=
  { scan with place := .text .empty, line := .token, sinceQuote := some 0 }

def endText (scan : Scan) (q : Quoted) : Scan :=
  { scan with place := .between, line := .token, tokens := .text q.text :: scan.tokens }

def endWord (scan : Scan) (chars : List Char) : Except ReadError Scan := do
  return scan.push (← Token.ofWord .yaml chars.reverse)

/-! ## Characters -/

/-- Reads a character outside words and quotes. -/
def readBetween (scan : Scan) (c : Char) : Except ReadError Scan :=
  let indented := if scan.line = .token then .token else LinePart.indent
  if c = ' ' then .ok { scan with line := indented }
  else if isBreak c then .ok { scan with line := .nothing }
  else if c = '\t' then
    if 0 < scan.depth || scan.line = .token then .ok { scan with line := indented }
    else .error .tabIndent
  else if c = byteOrderMark && scan.line = .nothing then .ok { scan with line := indented }
  else if c = '"' then .ok scan.beginText
  else match Token.ofMark? c with
    | some token => scan.pushMark token
    | none => .ok { scan with place := .word [c], line := .token }

def endsWord (c : Char) : Bool :=
  isSpace c || isBreak c || c = '"' || (Token.ofMark? c).isSome

def readText (scan : Scan) (q : Quoted) (c : Char) : Scan :=
  if c = '"' then scan.endText q
  else if c = '\\' then { scan with place := .escape q }
  else { scan with place := .text (q.pushPlain c) }

def readEscape (scan : Scan) (q : Quoted) (c : Char) : Except ReadError Scan :=
  if isBreak c then .ok { scan with place := .text q.joinLines }
  else match Escape.ofChar? c with
    | some (.character d) => .ok { scan with place := .text (q.push d) }
    | some (.code digits) => .ok { scan with place := .code q digits 0 }
    | none => .error .badEscape

def readDigit (scan : Scan) (q : Quoted) (missing value : Nat) (c : Char) :
    Except ReadError Scan :=
  match Token.hexValue? c with
  | none => .error .badEscape
  | some digit =>
      let value := 16 * value + digit
      if 1 < missing then .ok { scan with place := .code q (missing - 1) value }
      else match character? value with
        | some d => .ok { scan with place := .text (q.push d) }
        | none => .error .badEscape

def readChar (scan : Scan) (c : Char) : Except ReadError Scan :=
  match scan.place with
  | .between => scan.readBetween c
  | .word chars =>
      if endsWord c then do (← scan.endWord chars).readBetween c
      else .ok { scan with place := .word (c :: chars) }
  | .text q => .ok (scan.readText q c)
  | .escape q => scan.readEscape q c
  | .code q missing value => scan.readDigit q missing value c

/-- Counts the bytes of a character from the beginning of the last text, which a break leaves
behind. -/
def advance (scan : Scan) (c : Char) : Scan :=
  { scan with
    sinceQuote := if isBreak c then none else scan.sinceQuote.map (· + c.utf8Size) }

def take (scan : Scan) (c : Char) : Except ReadError Scan := do
  return (← scan.readChar c).advance c

end Scan

/-- The tokens of the text of a document; `line` is what stands before it on its line. -/
def tokens (line : LinePart) (chars : List Char) : Except ReadError (List Token) := do
  let scan ← chars.foldlM Scan.take ⟨.between, line, 0, none, []⟩
  match scan.place with
  | .between => return scan.tokens.reverse
  | .word word => return (← scan.endWord word).tokens.reverse
  | _ => throw .unfinished

end PathRouting.Yaml
