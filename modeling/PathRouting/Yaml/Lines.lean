/-!
# Lines of a stream

Which characters a YAML stream may hold, and how it is cut into lines and into the texts of its
documents.  Three dashes at the start of a line begin a document.
-/

namespace PathRouting.Yaml

/-! ## Characters -/

/-- The byte order mark, which may stand at the start of a line. -/
def byteOrderMark : Char := '\uFEFF'

/-- Whether a character may occur in a stream: of the control characters these are tabs and line
breaks. -/
def mayOccur (c : Char) : Bool :=
  let n := c.toNat
  c = '\t' || c = '\n' || c = '\r' || (0x20 ≤ n && n ≤ 0x7E) || n = 0x85 ||
    (0xA0 ≤ n && n ≠ 0xFFFE && n ≠ 0xFFFF)

def isSpace (c : Char) : Bool :=
  c = ' ' || c = '\t'

/-- Whether a character ends a line, once all breaks of one line are the same character: a line
feed, or one of the separators of lines and paragraphs. -/
def isBreak (c : Char) : Bool :=
  c = '\n' || c = '\u2028' || c = '\u2029'

/-- Writes every break that stands for the end of a line as a line feed: a carriage return, with a
line feed behind it or not, and the control character for the next line. -/
def unifyBreaks (chars : List Char) : List Char :=
  (chars.zip (' ' :: chars)).filterMap fun (c, before) =>
    if c = '\n' && before = '\r' then none
    else if c = '\r' || c = '\u0085' then some '\n'
    else some c

/-! ## Documents -/

/-- Whether a line begins with three times a character, set off by a space or its end. -/
def startsWithMark (mark : Char) : List Char → Bool
  | a :: b :: c :: chars =>
      a = mark && b = mark && c = mark && chars.head?.all fun d => isSpace d || isBreak d
  | _ => false

/-- The texts that the marks of three dashes set off, the first of them before any mark and the
others with their mark; `line` tells whether a line starts here, and `before` holds the characters
of the text under way, last first. -/
def cutAtMarks (line : Bool) (before : List Char) : List Char → List (List Char)
  | [] => [before.reverse]
  | c :: chars =>
      if line && startsWithMark '-' (c :: chars) then
        before.reverse :: cutAtMarks (isBreak c) [c] chars
      else cutAtMarks (isBreak c) (c :: before) chars

/-- Whether some line is a mark that ends a document; `line` tells whether a line starts here. -/
def hasEndMark (line : Bool) : List Char → Bool
  | [] => false
  | c :: chars => (line && startsWithMark '.' (c :: chars)) || hasEndMark (isBreak c) chars

end PathRouting.Yaml
