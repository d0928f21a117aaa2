import PathRouting.Text.HiddenRanges

/-!
# Quoted text

Text between double quotes, with everything a reader could not see or would misread written as
an escape.
-/

namespace PathRouting.Text

/-- The digits of `n` in base sixteen, in lower case and without leading zeros. -/
def hexDigits (n : Nat) : List Char :=
  Nat.toDigits 16 n

/-- The escape of a character by its code point: a backslash, `u` and the code in braces. -/
def codeEscape (c : Char) : List Char :=
  "\\u\x7b".toList ++ hexDigits c.toNat ++ ['\x7d']

/-- Whether a character has to be written by its code point inside quotes. -/
def hasNoShape (c : Char) : Bool :=
  if c.toNat < 0x80 then
    c.toNat < 0x20 || c.toNat == 0x7F
  else
    hiddenRanges.holds c.toNat || extendingRanges.holds c.toNat

def quoteChar (c : Char) : List Char :=
  if c = '"' then ['\\', '"']
  else if c = '\\' then ['\\', '\\']
  else if c = '\n' then ['\\', 'n']
  else if c = '\t' then ['\\', 't']
  else if c = '\r' then ['\\', 'r']
  else if c.toNat = 0 then ['\\', '0']
  else if hasNoShape c then codeEscape c
  else [c]

def quote (text : String) : String :=
  String.ofList ('"' :: text.toList.flatMap quoteChar ++ ['"'])

/-- An optional text: `None`, or the quoted text inside `Some(…)`. -/
def quoteOption : Option String → String
  | none => "None"
  | some text => "Some(" ++ quote text ++ ")"

/-- A list in square brackets, its items set off by commas. -/
def bracketed (items : List String) : String :=
  "[" ++ ", ".intercalate items ++ "]"

end PathRouting.Text
