import Mathlib.Data.String.Basic
import PathRouting.Proofs.Text.Words

/-!
# Boundaries between characters

A text may be cut where a character of it begins and at its end, and nowhere else.  Bytes decide
where that is: the first byte of a character says how many bytes it has, and only characters of one
byte are special to patterns.  So whatever agrees with a text up to ASCII case, and whatever run of
word bytes follows a boundary, ends at a boundary again.
-/

namespace PathRouting.Text

/-! ## The bytes of characters -/

def encode (chars : List Char) : List UInt8 :=
  chars.flatMap String.utf8EncodeChar

theorem utf8_eq_encode (text : String) : utf8 text = encode text.toList := rfl

@[simp] theorem encode_nil : encode [] = [] := rfl

@[simp] theorem encode_cons (c : Char) (chars : List Char) :
    encode (c :: chars) = String.utf8EncodeChar c ++ encode chars := rfl

@[simp] theorem encode_append (front back : List Char) :
    encode (front ++ back) = encode front ++ encode back :=
  List.flatMap_append

theorem length_encode (chars : List Char) : (encode chars).length = String.utf8Len chars := by
  induction chars with
  | nil => rfl
  | cons c chars ih =>
    rw [encode_cons, List.length_append, String.length_utf8EncodeChar, ih, String.utf8Len_cons,
      Nat.add_comm]

theorem utf8EncodeChar_of_ascii {c : Char} (ascii : c.toNat < 128) :
    String.utf8EncodeChar c = [c.toUInt8] := by
  have small : c.val.toNat ≤ 127 := by
    rw [Char.toNat_val]
    omega
  rw [String.utf8EncodeChar.eq_1, if_pos small]
  rfl

/-- No byte of a longer character is an ASCII byte. -/
theorem le_toNat_of_mem_utf8EncodeChar {c : Char} {b : UInt8} (large : 128 ≤ c.toNat)
    (member : b ∈ String.utf8EncodeChar c) : 128 ≤ b.toNat := by
  have notSmall : ¬ c.val.toNat ≤ 127 := by
    rw [Char.toNat_val]
    omega
  rw [String.utf8EncodeChar.eq_1, if_neg notSmall] at member
  split_ifs at member <;>
    simp only [List.mem_cons, List.not_mem_nil, or_false] at member <;>
    rcases member with rfl | rfl | rfl | rfl <;>
    simp only [UInt8.toNat_ofNat'] <;> omega

theorem exists_utf8EncodeChar (c : Char) :
    ∃ first more, String.utf8EncodeChar c = first :: more := by
  apply List.exists_cons_of_length_pos
  rw [String.length_utf8EncodeChar]
  exact c.utf8Size_pos

/-- The bytes of one character are not the start of those of another. -/
theorem utf8EncodeChar_append_inj {c d : Char} {rest left : List UInt8}
    (same : String.utf8EncodeChar c ++ rest = String.utf8EncodeChar d ++ left) :
    c = d ∧ rest = left := by
  have decoded (e : Char) (tail : List UInt8) :
      (String.utf8EncodeChar e ++ tail).toByteArray.utf8DecodeChar? 0 = some e := by
    rw [List.toByteArray_append]
    exact ByteArray.utf8DecodeChar?_utf8EncodeChar_append
  have chars : some c = some d := by rw [← decoded c rest, same, decoded d left]
  obtain rfl := Option.some.inj chars
  exact ⟨rfl, List.append_cancel_left same⟩

theorem encode_append_eq_encode {front chars : List Char} {rest : List UInt8}
    (same : encode front ++ rest = encode chars) :
    ∃ back, chars = front ++ back ∧ rest = encode back := by
  induction front generalizing chars with
  | nil => exact ⟨chars, rfl, same⟩
  | cons c front ih =>
    rw [encode_cons, List.append_assoc] at same
    cases chars with
    | nil =>
      obtain ⟨first, more, bytes⟩ := exists_utf8EncodeChar c
      simp [bytes] at same
    | cons d chars =>
      rw [encode_cons] at same
      obtain ⟨rfl, tail⟩ := utf8EncodeChar_append_inj same
      obtain ⟨back, rfl, rest_eq⟩ := ih tail
      exact ⟨back, rfl, rest_eq⟩

/-! ## ASCII case -/

theorem toNat_toLower (c : Char) :
    c.toLower.toNat = if 65 ≤ c.toNat ∧ c.toNat ≤ 90 then c.toNat + 32 else c.toNat := by
  have capital : (c.val ≥ 'A'.val ∧ c.val ≤ 'Z'.val) ↔ 65 ≤ c.toNat ∧ c.toNat ≤ 90 := by
    simp only [ge_iff_le, UInt32.le_iff_toNat_le, Char.toNat_val, Char.reduceToNat]
  unfold Char.toLower
  by_cases isCapital : 65 ≤ c.toNat ∧ c.toNat ≤ 90
  · rw [dif_pos (capital.mpr isCapital), if_pos isCapital]
    show (c.val + ('a'.val - 'A'.val)).toNat = c.toNat + 32
    have shift : ('a'.val - 'A'.val).toNat = 32 := rfl
    rw [UInt32.toNat_add, shift, Char.toNat_val]
    omega
  · rw [dif_neg (mt capital.mp isCapital), if_neg isCapital]

theorem toNat_lowerByte (b : UInt8) :
    (lowerByte b).toNat = if 65 ≤ b.toNat ∧ b.toNat ≤ 90 then b.toNat + 32 else b.toNat := by
  have capital : (0x41 ≤ b && b ≤ 0x5A) = true ↔ 65 ≤ b.toNat ∧ b.toNat ≤ 90 := by
    simp only [Bool.and_eq_true, decide_eq_true_eq, UInt8.le_iff_toNat_le, UInt8.reduceToNat]
  unfold lowerByte
  by_cases isCapital : 65 ≤ b.toNat ∧ b.toNat ≤ 90
  · rw [if_pos (capital.mpr isCapital), if_pos isCapital, UInt8.toNat_add]
    have shift : (0x20 : UInt8).toNat = 32 := rfl
    omega
  · rw [if_neg (mt capital.mp isCapital), if_neg isCapital]

theorem map_lowerByte_utf8EncodeChar (c : Char) :
    (String.utf8EncodeChar c).map lowerByte = String.utf8EncodeChar c.toLower := by
  have lowered := toNat_toLower c
  by_cases ascii : c.toNat < 128
  · have asciiLower : c.toLower.toNat < 128 := by
      split at lowered <;> omega
    rw [utf8EncodeChar_of_ascii ascii, utf8EncodeChar_of_ascii asciiLower, List.map_singleton,
      List.singleton_inj, ← UInt8.toNat_inj, toNat_lowerByte]
    simp only [Char.toUInt8, UInt32.toNat_toUInt8, Char.toNat_val] at *
    split at lowered <;> split <;> omega
  · have large : 128 ≤ c.toNat := Nat.le_of_not_lt ascii
    have same : c.toLower = c := by
      rw [← Char.toNat_inj, lowered]
      exact if_neg (by omega)
    have unchanged : ∀ b ∈ String.utf8EncodeChar c, lowerByte b = b := by
      intro b member
      have largeByte := le_toNat_of_mem_utf8EncodeChar large member
      rw [← UInt8.toNat_inj, toNat_lowerByte]
      exact if_neg (by omega)
    rw [same, List.map_congr_left unchanged, List.map_id']

theorem map_lowerByte_encode (chars : List Char) :
    (encode chars).map lowerByte = encode (chars.map Char.toLower) := by
  induction chars with
  | nil => rfl
  | cons c chars ih =>
    rw [encode_cons, List.map_append, map_lowerByte_utf8EncodeChar, ih, List.map_cons, encode_cons]

/-- Bytes that agree with a text up to ASCII case, taken off the front of another text, are
characters of that text. -/
theorem exists_chars_of_sameCase {chars text : List Char} {taken rest : List UInt8}
    (split : encode chars = taken ++ rest)
    (same : taken.map lowerByte = (encode text).map lowerByte) :
    ∃ front back, chars = front ++ back ∧ taken = encode front ∧ rest = encode back := by
  have lowered : encode (text.map Char.toLower) ++ rest.map lowerByte =
      encode (chars.map Char.toLower) := by
    rw [← map_lowerByte_encode, ← map_lowerByte_encode, split, List.map_append, same]
  obtain ⟨tail, lowerChars, -⟩ := encode_append_eq_encode lowered
  obtain ⟨front, back, rfl, lowerFront, -⟩ := List.map_eq_append_iff.mp lowerChars
  have length : (encode front).length = taken.length := by
    rw [← List.length_map (f := lowerByte), map_lowerByte_encode, lowerFront,
      ← map_lowerByte_encode, ← same, List.length_map]
  rw [encode_append] at split
  obtain ⟨taken_eq, rest_eq⟩ := List.append_inj split length
  exact ⟨front, back, rfl, taken_eq.symm, rest_eq.symm⟩

/-! ## Special characters -/

/-- The first byte of a character is an ASCII byte only if it is the only one. -/
theorem first_eq_toUInt8_iff {c a : Char} {first : UInt8} {more : List UInt8}
    (bytes : String.utf8EncodeChar c = first :: more) (ascii : a.toNat < 128) :
    first = a.toUInt8 ↔ c = a := by
  have special : a.toUInt8.toNat = a.toNat := by
    simp only [Char.toUInt8, UInt32.toNat_toUInt8, Char.toNat_val]
    omega
  rw [← UInt8.toNat_inj, special, ← Char.toNat_inj]
  by_cases small : c.toNat < 128
  · rw [utf8EncodeChar_of_ascii small] at bytes
    obtain ⟨rfl, -⟩ := List.cons.inj bytes
    simp only [Char.toUInt8, UInt32.toNat_toUInt8, Char.toNat_val]
    omega
  · have member : first ∈ String.utf8EncodeChar c := bytes ▸ List.mem_cons_self
    have large := le_toNat_of_mem_utf8EncodeChar (Nat.le_of_not_lt small) member
    omega

theorem toUInt8_mem_encode_iff {chars : List Char} {a : Char} (ascii : a.toNat < 128) :
    a.toUInt8 ∈ encode chars ↔ a ∈ chars := by
  constructor
  · intro member
    obtain ⟨c, inside, byte⟩ := List.mem_flatMap.mp member
    by_cases small : c.toNat < 128
    · have bytes := utf8EncodeChar_of_ascii small
      rw [bytes, List.mem_singleton] at byte
      exact (first_eq_toUInt8_iff bytes ascii).mp byte.symm ▸ inside
    · have large := le_toNat_of_mem_utf8EncodeChar (Nat.le_of_not_lt small) byte
      simp only [Char.toUInt8, UInt32.toNat_toUInt8, Char.toNat_val] at large
      omega
  · intro member
    apply List.mem_flatMap.mpr
    exact ⟨a, member, by rw [utf8EncodeChar_of_ascii ascii]; exact List.mem_cons_self⟩

theorem isWordByte_first {c : Char} {first : UInt8} {more : List UInt8}
    (bytes : String.utf8EncodeChar c = first :: more) : isWordByte first = isWordChar c := by
  rw [Bool.eq_iff_iff, isWordByte_iff, isWordChar_iff]
  by_cases small : c.toNat < 128
  · rw [utf8EncodeChar_of_ascii small] at bytes
    obtain ⟨rfl, -⟩ := List.cons.inj bytes
    simp only [IsWordCode, Char.toUInt8, UInt32.toNat_toUInt8, Char.toNat_val]
    omega
  · have member : first ∈ String.utf8EncodeChar c := bytes ▸ List.mem_cons_self
    have large := le_toNat_of_mem_utf8EncodeChar (Nat.le_of_not_lt small) member
    simp only [IsWordCode]
    omega

theorem head?_encode_eq_some_iff {chars : List Char} {a : Char} (ascii : a.toNat < 128) :
    (encode chars).head? = some a.toUInt8 ↔ chars.head? = some a := by
  cases chars with
  | nil => simp
  | cons c chars =>
    obtain ⟨first, more, bytes⟩ := exists_utf8EncodeChar c
    rw [encode_cons, bytes, List.cons_append, List.head?_cons, List.head?_cons, Option.some_inj,
      Option.some_inj, first_eq_toUInt8_iff bytes ascii]

theorem any_isWordByte_head?_encode (chars : List Char) :
    (encode chars).head?.any isWordByte = chars.head?.any isWordChar := by
  cases chars with
  | nil => rfl
  | cons c chars =>
    obtain ⟨first, more, bytes⟩ := exists_utf8EncodeChar c
    rw [encode_cons, bytes, List.cons_append, List.head?_cons, List.head?_cons, Option.any_some,
      Option.any_some, isWordByte_first bytes]

theorem takeWhile_isWordByte_encode (chars : List Char) :
    (encode chars).takeWhile isWordByte = encode (chars.takeWhile isWordChar) := by
  induction chars with
  | nil => rfl
  | cons c chars ih =>
    by_cases word : isWordChar c = true
    · rw [List.takeWhile_cons_of_pos word, encode_cons, encode_cons,
        utf8EncodeChar_of_isWordChar word, List.singleton_append,
        List.takeWhile_cons_of_pos (isWordByte_toUInt8 word), ih]
      rfl
    · obtain ⟨first, more, bytes⟩ := exists_utf8EncodeChar c
      have other : ¬ isWordByte first = true := isWordByte_first bytes ▸ word
      rw [List.takeWhile_cons_of_neg word, encode_cons, bytes, List.cons_append,
        List.takeWhile_cons_of_neg other, encode_nil]

theorem isWordChar_of_encode {chars : List Char}
    (word : ∀ b ∈ encode chars, isWordByte b = true) : ∀ c ∈ chars, isWordChar c = true := by
  intro c member
  obtain ⟨first, more, bytes⟩ := exists_utf8EncodeChar c
  have inside : first ∈ encode chars :=
    List.mem_flatMap.mpr ⟨c, member, bytes ▸ List.mem_cons_self⟩
  rw [← isWordByte_first bytes]
  exact word first inside

/-! ## Cuts -/

/-- A character begins at this byte of the text, or the text ends there. -/
def IsCut (text : String) (offset : Nat) : Prop :=
  String.Pos.Raw.IsValid text ⟨offset⟩

instance (text : String) (offset : Nat) : Decidable (IsCut text offset) :=
  inferInstanceAs (Decidable (String.Pos.Raw.IsValid text ⟨offset⟩))

/-- The text from one byte to another.  Bytes that are out of order or that are no cuts have no
text. -/
def slice? (text : String) (start stop : Nat) : Option String :=
  if start ≤ stop ∧ IsCut text start ∧ IsCut text stop then
    some (String.Pos.Raw.extract text ⟨start⟩ ⟨stop⟩)
  else none

theorem isCut_iff {text : String} {offset : Nat} :
    IsCut text offset ↔
      ∃ front back, text.toList = front ++ back ∧ offset = (encode front).length := by
  have lastCut (front : List Char) :
      (String.ofList front).rawEndPos = ⟨(encode front).length⟩ := by
    rw [String.rawEndPos_ofList, length_encode]
  rw [IsCut, String.Pos.Raw.isValid_iff_exists_append]
  constructor
  · rintro ⟨front, back, rfl, atEnd⟩
    rw [← String.ofList_toList (s := front), lastCut, String.Pos.Raw.mk.injEq] at atEnd
    exact ⟨front.toList, back.toList, String.toList_append, atEnd⟩
  · rintro ⟨front, back, split, rfl⟩
    refine ⟨String.ofList front, String.ofList back, ?_, (lastCut front).symm⟩
    rw [← String.ofList_append, ← split, String.ofList_toList]

theorem isCut_zero (text : String) : IsCut text 0 :=
  isCut_iff.mpr ⟨[], text.toList, rfl, rfl⟩

namespace IsCut

variable {text : String} {offset : Nat}

theorem le_length (cut : IsCut text offset) : offset ≤ (utf8 text).length := by
  obtain ⟨front, back, split, rfl⟩ := isCut_iff.mp cut
  rw [utf8_eq_encode, split, encode_append, List.length_append]
  omega

theorem exists_drop (cut : IsCut text offset) : ∃ back, (utf8 text).drop offset = encode back ∧
    ∀ front, front <+: back → IsCut text (offset + (encode front).length) := by
  obtain ⟨before, back, split, rfl⟩ := isCut_iff.mp cut
  refine ⟨back, ?_, ?_⟩
  · rw [utf8_eq_encode, split, encode_append, List.drop_left]
  · rintro front ⟨rest, rfl⟩
    refine isCut_iff.mpr ⟨before ++ front, rest, ?_, ?_⟩
    · rw [split, List.append_assoc]
    · rw [encode_append, List.length_append]

theorem literal {literal : String} {left : List UInt8} (cut : IsCut text offset)
    (drops : dropText? (utf8 literal) ((utf8 text).drop offset) = some left) :
    IsCut text (offset + (utf8 literal).length) := by
  obtain ⟨taken, split, same⟩ := dropText?_eq_some_iff.mp drops
  obtain ⟨back, dropped, cuts⟩ := cut.exists_drop
  rw [dropped] at split
  obtain ⟨front, rest, rfl, rfl, -⟩ := exists_chars_of_sameCase split same
  have length : (encode front).length = (utf8 literal).length := by
    simpa using congrArg List.length same
  rw [← length]
  exact cuts front (List.prefix_append front rest)

theorem word (cut : IsCut text offset) :
    IsCut text (offset + (((utf8 text).drop offset).takeWhile isWordByte).length) := by
  obtain ⟨back, dropped, cuts⟩ := cut.exists_drop
  rw [dropped, takeWhile_isWordByte_encode]
  exact cuts _ (List.takeWhile_prefix isWordChar)

theorem slash (cut : IsCut text offset) (found : (utf8 text)[offset]? = some slash) :
    IsCut text (offset + 1) := by
  obtain ⟨back, dropped, cuts⟩ := cut.exists_drop
  have first : (encode back).head? = some ('/').toUInt8 := by
    rw [← dropped, List.head?_drop]
    exact found
  rw [head?_encode_eq_some_iff (by decide)] at first
  obtain ⟨rest, rfl⟩ := List.head?_eq_some_iff.mp first
  exact cuts ['/'] (List.prefix_append ['/'] rest)

end IsCut

theorem slice?_eq_some {text : String} {front middle back : List Char}
    (split : text.toList = front ++ middle ++ back) :
    slice? text (encode front).length (encode (front ++ middle)).length =
      some (String.ofList middle) := by
  have cut : IsCut text (encode front).length :=
    isCut_iff.mpr ⟨front, middle ++ back, by rw [split, List.append_assoc], rfl⟩
  have cut' : IsCut text (encode (front ++ middle)).length :=
    isCut_iff.mpr ⟨front ++ middle, back, split, rfl⟩
  have ordered : (encode front).length ≤ (encode (front ++ middle)).length := by simp
  rw [slice?, if_pos ⟨ordered, cut, cut'⟩, encode_append, List.length_append, length_encode,
    length_encode, ← String.ofList_toList (s := text), split, String.extract_of_valid]

example : slice? "né" 1 2 = none := by decide

end PathRouting.Text
