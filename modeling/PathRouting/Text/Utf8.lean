/-!
# Text as bytes

Paths are matched byte by byte in their UTF-8 form.  This module holds the view of a text as
bytes and the classes of bytes that the pattern language knows.  Only ASCII bytes are special: a
byte of a longer character is never a word byte, never a slash and has no other case.
-/

namespace PathRouting.Text

def utf8 (text : String) : List UInt8 :=
  text.toList.flatMap String.utf8EncodeChar

@[simp] theorem utf8_empty : utf8 "" = [] := rfl

@[simp] theorem utf8_append (a b : String) : utf8 (a ++ b) = utf8 a ++ utf8 b := by
  simp [utf8]

/-- The bytes that a token may capture: ASCII letters, ASCII digits and the underscore. -/
def isWordByte (b : UInt8) : Bool :=
  (0x30 ≤ b && b ≤ 0x39) || (0x41 ≤ b && b ≤ 0x5A) || (0x61 ≤ b && b ≤ 0x7A) || b == 0x5F

/-- The characters of token names; their only byte is a word byte. -/
def isWordChar (c : Char) : Bool :=
  c.isAlphanum || c == '_'

/-- The byte of the path separator. -/
def slash : UInt8 := 0x2F

/-- An ASCII capital in lower case, any other byte as it is. -/
def lowerByte (b : UInt8) : UInt8 :=
  if 0x41 ≤ b && b ≤ 0x5A then b + 0x20 else b

/-- Takes a text off the front of some bytes, up to ASCII case. -/
def dropText? : List UInt8 → List UInt8 → Option (List UInt8)
  | [], bytes => some bytes
  | _ :: _, [] => none
  | t :: text, b :: bytes => if lowerByte t = lowerByte b then dropText? text bytes else none

@[simp] theorem dropText?_nil (bytes : List UInt8) : dropText? [] bytes = some bytes := by
  simp [dropText?]

/-- `dropText?` takes as many bytes as the text has, and they agree with it up to ASCII case. -/
theorem dropText?_eq_some_iff {text bytes rest : List UInt8} :
    dropText? text bytes = some rest ↔
      ∃ taken, bytes = taken ++ rest ∧ taken.map lowerByte = text.map lowerByte := by
  induction text generalizing bytes with
  | nil => simp [eq_comm]
  | cons t text ih =>
      cases bytes with
      | nil => simp [dropText?]
      | cons b bytes =>
          by_cases h : lowerByte t = lowerByte b
          · simp only [dropText?, h, if_true, ih, List.map_cons]
            constructor
            · rintro ⟨taken, rfl, same⟩
              exact ⟨b :: taken, rfl, by simp [same]⟩
            · rintro ⟨taken, split, same⟩
              cases taken with
              | nil => simp at same
              | cons c taken =>
                  simp only [List.cons_append, List.cons.injEq] at split
                  exact ⟨taken, split.2, (List.cons.inj same).2⟩
          · simp only [dropText?, h, if_false, List.map_cons]
            constructor
            · intro impossible
              cases impossible
            · rintro ⟨taken, split, same⟩
              cases taken with
              | nil => simp at same
              | cons c taken =>
                  simp only [List.cons_append, List.cons.injEq] at split
                  exact absurd (split.1 ▸ (List.cons.inj same).1).symm h

def asciiText (bytes : List UInt8) : String :=
  String.ofList (bytes.map Char.ofUInt8)

/-- Whether two texts agree up to ASCII case. -/
def sameIgnoringCase (a b : String) : Bool :=
  a.toList.map Char.toLower == b.toList.map Char.toLower

end PathRouting.Text
