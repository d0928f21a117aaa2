import PathRouting.Json.Basic

/-!
# Tokens of a document

A document is cut into punctuation, texts in quotes and words; a word is a number or one of the
names `true`, `false` and `null`.  The scanner looks at one character at a time.
-/

namespace PathRouting.Json

inductive Token where
  | openBrace
  | closeBrace
  | openBracket
  | closeBracket
  | comma
  | colon
  | text (s : String)
  | scalar (j : Json)

/-- Why a text is not a document. -/
inductive ReadError where
  | badCharacter
  | badEscape
  | badWord (word : String)
  | numberTooLarge
  | unfinished
  | misplacedToken
  | tooDeep
  /-- A tab before the first token of a line. -/
  | tabIndent
  /-- A key whose colon does not follow it soon enough. -/
  | lostColon
  | notOneDocument

def ReadError.message : ReadError → String
  | badCharacter => "character that may not stand here"
  | badEscape => "invalid escape in a string"
  | badWord word => "unexpected word " ++ word
  | numberTooLarge => "number out of range"
  | unfinished => "unexpected end of the document"
  | misplacedToken => "unexpected token"
  | tooDeep => "document nested too deeply"
  | tabIndent => "a tab indents a line"
  | lostColon => "no colon behind a key"
  | notOneDocument => "expected one document"

namespace Token

/-! ## The state of the scanner -/

/-- Where the scanner stands. -/
inductive Place where
  | between
  /-- Inside a word; its characters so far, last first. -/
  | word (chars : List Char)
  /-- Inside quotes; the characters so far, last first. -/
  | text (chars : List Char)
  /-- Behind a backslash. -/
  | escape (chars : List Char)
  /-- Inside a code of four digits, some of which are still to come. -/
  | code (chars : List Char) (high : Option Nat) (missing : Nat) (value : Nat)
  /-- Behind the first half of a surrogate pair, before the second backslash or behind it. -/
  | secondHalf (chars : List Char) (high : Nat) (escaped : Bool)

/-- A place and the tokens so far, last first. -/
structure Scan where
  place : Place
  tokens : List Token

/-! ## Words and characters -/

/-- The value of a hexadecimal digit. -/
def hexValue? (c : Char) : Option Nat :=
  if '0' ≤ c && c ≤ '9' then some (c.toNat - '0'.toNat)
  else if 'a' ≤ c && c ≤ 'f' then some (c.toNat - 'a'.toNat + 10)
  else if 'A' ≤ c && c ≤ 'F' then some (c.toNat - 'A'.toNat + 10)
  else none

def escaped? : Char → Option Char
  | '"' => some '"'
  | '\\' => some '\\'
  | '/' => some '/'
  | 'b' => some (Char.ofNat 8)
  | 'f' => some (Char.ofNat 12)
  | 'n' => some '\n'
  | 'r' => some '\r'
  | 't' => some '\t'
  | _ => none

/-- The token of a number.  In a YAML stream one that is too large is a text. -/
def ofNumeral (dialect : Dialect) (word : String) (numeral : Numeral) : Except ReadError Token :=
  match dialect with
  | .strict =>
      match Number.ofNumeral? numeral with
      | some value => .ok (.scalar (.number word value))
      | none => .error .numberTooLarge
  | .yaml =>
      match Number.ofScalar? numeral with
      | some value => .ok (.scalar (.number word value))
      | none => .ok (.scalar (.string word))

def ofWord (dialect : Dialect) (chars : List Char) : Except ReadError Token :=
  let word := String.ofList chars
  if word = "true" then .ok (.scalar (.bool true))
  else if word = "false" then .ok (.scalar (.bool false))
  else if word = "null" then .ok (.scalar .null)
  else match Numeral.ofChars? chars with
    | none => .error (.badWord word)
    | some numeral => ofNumeral dialect word numeral

def ofMark? : Char → Option Token
  | '\x7b' => some .openBrace
  | '\x7d' => some .closeBrace
  | '[' => some .openBracket
  | ']' => some .closeBracket
  | ',' => some .comma
  | ':' => some .colon
  | _ => none

def isBlank (c : Char) : Bool :=
  c = ' ' || c = '\n' || c = '\t' || c = '\r'

/-! ## Scanning -/

/-- Reads a character outside words and quotes. -/
def scanBetween (tokens : List Token) (c : Char) : Scan :=
  if isBlank c then ⟨.between, tokens⟩
  else if c = '"' then ⟨.text [], tokens⟩
  else match ofMark? c with
    | some token => ⟨.between, token :: tokens⟩
    | none => ⟨.word [c], tokens⟩

def endsWord (c : Char) : Bool :=
  isBlank c || c = '"' || (ofMark? c).isSome

/-- What follows once the last digit of a code is read. -/
def endCode (chars : List Char) (high : Option Nat) (value : Nat) : Except ReadError Place :=
  let isHigh := 0xD800 ≤ value && value ≤ 0xDBFF
  let isLow := 0xDC00 ≤ value && value ≤ 0xDFFF
  match high with
  | some h =>
      if isLow then
        .ok (.text (Char.ofNat (0x10000 + (h - 0xD800) * 0x400 + (value - 0xDC00)) :: chars))
      else .error .badEscape
  | none =>
      if !isHigh && !isLow then .ok (.text (Char.ofNat value :: chars))
      else if isHigh then .ok (.secondHalf chars value false)
      else .error .badEscape

def scanChar (scan : Scan) (c : Char) : Except ReadError Scan :=
  match scan.place with
  | .between => .ok (scanBetween scan.tokens c)
  | .word chars =>
      if endsWord c then do return scanBetween ((← ofWord .strict chars.reverse) :: scan.tokens) c
      else .ok { scan with place := .word (c :: chars) }
  | .text chars =>
      if c = '"' then .ok ⟨.between, .text (String.ofList chars.reverse) :: scan.tokens⟩
      else if c = '\\' then .ok { scan with place := .escape chars }
      else if ' ' ≤ c then .ok { scan with place := .text (c :: chars) }
      else .error .badCharacter
  | .escape chars =>
      if c = 'u' then .ok { scan with place := .code chars none 4 0 }
      else match escaped? c with
        | some d => .ok { scan with place := .text (d :: chars) }
        | none => .error .badEscape
  | .secondHalf chars high escaped =>
      if !escaped && c = '\\' then .ok { scan with place := .secondHalf chars high true }
      else if escaped && c = 'u' then .ok { scan with place := .code chars (some high) 4 0 }
      else .error .badEscape
  | .code chars high missing value =>
      match hexValue? c with
      | none => .error .badEscape
      | some digit =>
          let value := 16 * value + digit
          if missing ≤ 1 then do return { scan with place := ← endCode chars high value }
          else .ok { scan with place := .code chars high (missing - 1) value }

end Token

def tokens (text : String) : Except ReadError (List Token) := do
  let scan ← text.toList.foldlM Token.scanChar ⟨.between, []⟩
  match scan.place with
  | .between => return scan.tokens.reverse
  | .word chars => return ((← Token.ofWord .strict chars.reverse) :: scan.tokens).reverse
  | _ => throw .unfinished

end PathRouting.Json
