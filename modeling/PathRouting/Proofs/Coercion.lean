import PathRouting.Value
import PathRouting.Proofs.Text.Words

/-!
# Reading and writing values

Captured text is read as a value, and a value is written as text.  What was read once is read back
from its writing as it is: reading loses leading zeros and the case of boolean words, and nothing
more is lost later.
-/

namespace PathRouting.Value

open PathRouting.Text

/-! ## Runs of digits -/

/-- One or more decimal digits. -/
def IsDigits (text : String) : Prop :=
  text.toList ≠ [] ∧ ∀ c ∈ text.toList, c.isDigit = true

theorem IsDigits.isWord {text : String} (digits : IsDigits text) : IsWord text := by
  refine ⟨digits.1, ?_⟩
  intro c member
  simp [isWordChar, Char.isAlphanum, digits.2 c member]

theorem isDigits_repr (n : Nat) : IsDigits n.repr := by
  rw [IsDigits, Nat.toList_repr]
  refine ⟨Nat.toDigits_ne_nil, ?_⟩
  intro c member
  exact Nat.isDigit_of_mem_toDigits (by decide) (by decide) member

theorem digitsToNat_repr (n : Nat) : digitsToNat n.repr.toList = n := by
  rw [Nat.toList_repr]
  exact Nat.ofDigitChars_ten_toDigits

theorem toLower_of_isDigit {c : Char} (digit : c.isDigit = true) : c.toLower = c := by
  apply dif_neg
  simp only [Char.isDigit, Bool.and_eq_true, decide_eq_true_eq, ge_iff_le,
    UInt32.le_iff_toNat_le, Char.toNat_val, Char.reduceToNat] at digit ⊢
  omega

theorem IsDigits.not_sameIgnoringCase {text word : String} (digits : IsDigits text)
    (letter : (word.toList.map Char.toLower).all Char.isDigit = false) :
    sameIgnoringCase text word = false := by
  rw [sameIgnoringCase, beq_eq_false_iff_ne]
  intro same
  have lower : ∀ c ∈ text.toList.map Char.toLower, c.isDigit = true := by
    refine List.forall_mem_map.mpr fun c member => ?_
    rw [toLower_of_isDigit (digits.2 c member)]
    exact digits.2 c member
  rw [← same, List.all_eq_true.mpr lower] at letter
  cases letter

/-! ## What is read -/

/-- How captured text is read. -/
inductive Coerces (raw : String) : Value → Prop where
  | yes (word : sameIgnoringCase raw "true" = true) : Coerces raw (.bool true)
  | no (word : sameIgnoringCase raw "false" = true) : Coerces raw (.bool false)
  | number (digits : IsDigits raw) (fits : digitsToNat raw.toList ≤ maxInt) :
      Coerces raw (.int (Int64.ofNat (digitsToNat raw.toList)))
  | text (notYes : sameIgnoringCase raw "true" = false)
      (notNo : sameIgnoringCase raw "false" = false)
      (unfit : IsDigits raw → maxInt < digitsToNat raw.toList) : Coerces raw (.text raw)

theorem isNumber_iff {raw : String} :
    (!raw.toList.isEmpty && raw.toList.all Char.isDigit &&
        decide (digitsToNat raw.toList ≤ maxInt)) = true ↔
      IsDigits raw ∧ digitsToNat raw.toList ≤ maxInt := by
  simp only [IsDigits, Bool.and_eq_true, Bool.not_eq_true', List.isEmpty_eq_false_iff,
    List.all_eq_true, decide_eq_true_eq, ne_eq]

theorem coerces_coerce (raw : String) : Coerces raw (coerce raw) := by
  unfold coerce
  split
  · case isTrue yes => exact .yes yes
  · case isFalse notYes =>
    split
    · case isTrue no => exact .no no
    · case isFalse notNo =>
      split
      · case isTrue number =>
        obtain ⟨digits, fits⟩ := isNumber_iff.mp number
        exact .number digits fits
      · case isFalse unfit =>
        rw [isNumber_iff, not_and, Nat.not_le] at unfit
        rw [Bool.not_eq_true] at notYes notNo
        exact .text notYes notNo unfit

theorem Coerces.coerce_eq {raw : String} {value : Value} (coerces : Coerces raw value) :
    coerce raw = value := by
  cases coerces with
  | yes word => rw [coerce, if_pos word]
  | no word =>
    have notYes : sameIgnoringCase raw "true" = false := by
      rw [sameIgnoringCase, beq_iff_eq] at word
      rw [sameIgnoringCase, word]
      decide
    rw [coerce, notYes, if_neg Bool.false_ne_true, if_pos word]
  | number digits fits =>
    rw [coerce, digits.not_sameIgnoringCase rfl, digits.not_sameIgnoringCase rfl,
      if_neg Bool.false_ne_true, if_neg Bool.false_ne_true,
      if_pos (isNumber_iff.mpr ⟨digits, fits⟩)]
  | text notYes notNo unfit =>
    rw [coerce, notYes, notNo, if_neg Bool.false_ne_true, if_neg Bool.false_ne_true, if_neg]
    rw [isNumber_iff, not_and, Nat.not_le]
    exact unfit

/-! ## What is written -/

theorem display_int_ofNat {n : Nat} (fits : n ≤ maxInt) :
    display (.int (Int64.ofNat n)) = n.repr := by
  have small : n < 2 ^ 63 := Nat.lt_of_le_of_lt fits (by decide)
  rw [display, Int64.toInt_ofNat_of_lt small]
  rfl

theorem coerce_repr {n : Nat} (fits : n ≤ maxInt) : coerce n.repr = .int (Int64.ofNat n) := by
  have back : digitsToNat n.repr.toList ≤ maxInt := by rwa [digitsToNat_repr]
  rw [(Coerces.number (isDigits_repr n) back).coerce_eq, digitsToNat_repr]

theorem coerce_display_coerce (raw : String) : coerce (coerce raw).display = coerce raw := by
  have coerces := coerces_coerce raw
  generalize coerce raw = value at coerces
  cases coerces with
  | yes _ => rfl
  | no _ => rfl
  | number digits fits => rw [display_int_ofNat fits, coerce_repr fits]
  | text notYes notNo unfit => exact (Coerces.text notYes notNo unfit).coerce_eq

theorem isWord_display_coerce {raw : String} (isWord : IsWord raw) :
    IsWord (coerce raw).display := by
  have coerces := coerces_coerce raw
  generalize coerce raw = value at coerces
  cases coerces with
  | yes _ => decide
  | no _ => decide
  | number digits fits =>
    rw [display_int_ofNat fits]
    exact (isDigits_repr _).isWord
  | text _ _ _ => exact isWord

end PathRouting.Value
