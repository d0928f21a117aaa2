import Mathlib.Tactic.SplitIfs
import PathRouting.Proofs.Text.Boundaries

/-!
# The order of bytes

Texts are ordered character by character.  Their bytes are ordered the same way: a character with
more bytes has the higher first byte, and of two with as many bytes the higher one has the higher
digit where they first differ.
-/

namespace PathRouting.Text

theorem digits_of_lt {m n : Nat} (before : m < n) :
    m / 262144 < n / 262144 ∨ m / 262144 = n / 262144 ∧
      (m / 4096 % 64 < n / 4096 % 64 ∨ m / 4096 % 64 = n / 4096 % 64 ∧
        (m / 64 % 64 < n / 64 % 64 ∨ m / 64 % 64 = n / 64 % 64 ∧ m % 64 < n % 64)) := by
  omega

theorem toNat_le (c : Char) : c.toNat ≤ 0x10FFFF := by
  rcases c.valid with low | ⟨-, high⟩
  · change c.toNat < _ at low
    omega
  · change c.toNat < _ at high
    omega

theorem utf8EncodeChar_append_lt {c d : Char} (before : c < d) (rest left : List UInt8) :
    String.utf8EncodeChar c ++ rest < String.utf8EncodeChar d ++ left := by
  have before : c.val.toNat < d.val.toNat := before
  have last : d.val.toNat ≤ 0x10FFFF := toNat_le d
  have digits := digits_of_lt before
  rw [String.utf8EncodeChar.eq_1, String.utf8EncodeChar.eq_1]
  generalize c.val.toNat = m at *
  generalize d.val.toNat = n at *
  split_ifs
  all_goals
    simp only [List.cons_append, List.nil_append, List.cons_lt_cons_iff, UInt8.lt_iff_toNat_lt,
      ← UInt8.toNat_inj, UInt8.toNat_ofNat', Nat.reducePow]
    simp (disch := omega) only [Nat.mod_eq_of_lt]
    rcases digits with first | ⟨same, second | ⟨same, third | ⟨same, fourth⟩⟩⟩ <;> omega

theorem encode_lt_encode {chars others : List Char} (before : chars < others) :
    encode chars < encode others := by
  induction before with
  | @nil d others =>
    obtain ⟨first, more, bytes⟩ := exists_utf8EncodeChar d
    rw [encode_cons, bytes]
    exact .nil
  | rel before => exact utf8EncodeChar_append_lt before _ _
  | @cons c chars others _ ih =>
    rw [encode_cons, encode_cons]
    exact List.append_left_lt ih

/-- Texts are ordered as their bytes are. -/
theorem utf8_lt_utf8 {a b : String} (before : a < b) : utf8 a < utf8 b :=
  encode_lt_encode (String.lt_iff_toList_lt.mp before)

end PathRouting.Text
