import Mathlib.Data.Nat.Digits.Defs
import PathRouting.Proofs.Text.Case

/-!
# Numbers of any length

A run of digits spells a number by the places of its digits.  A reader that holds an integer of 64
bits, and gives up as soon as one step overflows, gives up exactly if the whole number is too large:
leading zeros do not count, and no digit is too many.  Hence the value that a text is read as says
exactly what the text spells.
-/

namespace PathRouting.Value

open PathRouting.Text

/-! ## The number that digits spell -/

def digitValue (c : Char) : Nat :=
  c.toNat - '0'.toNat

/-- The number that digits spell: each counts by its place, the last one being the place of the
ones. -/
def decimalValue (text : String) : Nat :=
  Nat.ofDigits 10 (text.toList.reverse.map digitValue)

theorem digitsToNat_eq_decimalValue (text : String) :
    digitsToNat text.toList = decimalValue text := by
  rw [digitsToNat, decimalValue, Nat.ofDigits_eq_foldr, List.foldr_map, List.foldl_eq_foldr_reverse]
  refine congrArg (fun step => List.foldr step 0 text.toList.reverse) ?_
  funext c n
  exact Nat.add_comm (10 * n) (digitValue c)

theorem digitValue_le_nine {c : Char} (digit : c.isDigit = true) : digitValue c ≤ 9 := by
  simp only [Char.isDigit, Bool.and_eq_true, decide_eq_true_eq, ge_iff_le, UInt32.le_iff_toNat_le,
    Char.toNat_val, Char.reduceToNat] at digit
  simp only [digitValue, Char.reduceToNat]
  omega

/-! ## Reading with a fixed width -/

/-- The product, if it is an integer of 64 bits. -/
def mul? (a b : Int64) : Option Int64 :=
  if a.toBitVec.smulOverflow b.toBitVec then none else some (a * b)

/-- The sum, if it is an integer of 64 bits. -/
def add? (a b : Int64) : Option Int64 :=
  if a.toBitVec.saddOverflow b.toBitVec then none else some (a + b)

/-- Puts a digit behind the number read so far. -/
def readDigit? (n : Int64) (c : Char) : Option Int64 := do
  add? (← mul? n 10) (.ofNat (digitValue c))

/-- Reads digits from left to right, as long as nothing overflows. -/
def readInt? (digits : List Char) : Option Int64 :=
  digits.foldlM readDigit? 0

theorem mul?_eq_some_iff {a b n : Int64} : mul? a b = some n ↔ n.toInt = a.toInt * b.toInt := by
  have low := n.le_toInt
  have high := n.toInt_lt
  unfold mul?
  split
  · case isTrue overflows =>
    simp only [BitVec.smulOverflow, Bool.or_eq_true, decide_eq_true_eq, Int64.toInt_toBitVec]
      at overflows
    refine iff_of_false nofun fun same => ?_
    omega
  · case isFalse exact =>
    have exact := BitVec.toInt_mul_of_not_smulOverflow exact
    rw [Option.some.injEq, ← Int64.toInt_inj, eq_comm, ← Int64.toInt_toBitVec (a * b),
      Int64.toBitVec_mul, exact, Int64.toInt_toBitVec, Int64.toInt_toBitVec]

theorem add?_eq_some_iff {a b n : Int64} : add? a b = some n ↔ n.toInt = a.toInt + b.toInt := by
  have low := n.le_toInt
  have high := n.toInt_lt
  unfold add?
  split
  · case isTrue overflows =>
    simp only [BitVec.saddOverflow, Bool.or_eq_true, decide_eq_true_eq, Int64.toInt_toBitVec]
      at overflows
    refine iff_of_false nofun fun same => ?_
    omega
  · case isFalse exact =>
    have exact := BitVec.toInt_add_of_not_saddOverflow exact
    rw [Option.some.injEq, ← Int64.toInt_inj, eq_comm, ← Int64.toInt_toBitVec (a + b),
      Int64.toBitVec_add, exact, Int64.toInt_toBitVec, Int64.toInt_toBitVec]

theorem toInt_ofNat_digitValue {c : Char} (digit : c.isDigit = true) :
    (Int64.ofNat (digitValue c)).toInt = digitValue c := by
  have small := digitValue_le_nine digit
  exact Int64.toInt_ofNat_of_lt (by omega)

theorem readDigit?_eq_some_iff {k : Nat} {n m : Int64} {c : Char} (reached : n.toInt = k)
    (digit : c.isDigit = true) :
    readDigit? n c = some m ↔ m.toInt = (10 * k + digitValue c : Nat) := by
  have ten : (10 : Int64).toInt = 10 := rfl
  have value := toInt_ofNat_digitValue digit
  simp only [readDigit?, Option.bind_eq_bind, Option.bind_eq_some_iff, mul?_eq_some_iff,
    add?_eq_some_iff, reached, ten, value]
  constructor
  · rintro ⟨tens, product, sum⟩
    omega
  · intro sum
    have high := m.toInt_lt
    have product : (Int64.ofNat (10 * k)).toInt = (10 * k : Nat) :=
      Int64.toInt_ofNat_of_lt (by omega)
    exact ⟨.ofNat (10 * k), by omega, by omega⟩

theorem le_foldl_digits (k : Nat) (chars : List Char) :
    k ≤ chars.foldl (fun n c => 10 * n + digitValue c) k := by
  induction chars generalizing k with
  | nil => exact Nat.le_refl k
  | cons c chars ih =>
    have first := ih (10 * k + digitValue c)
    rw [List.foldl_cons]
    omega

/-- A number only grows as digits are put behind it, so what overflows on the way is too large in
the end. -/
theorem foldlM_readDigit?_eq_some_iff {k : Nat} {n m : Int64} {chars : List Char}
    (reached : n.toInt = k) (digits : ∀ c ∈ chars, c.isDigit = true) :
    chars.foldlM readDigit? n = some m ↔
      m.toInt = (chars.foldl (fun n c => 10 * n + digitValue c) k : Nat) := by
  induction chars generalizing k n with
  | nil =>
    rw [List.foldlM_nil, List.foldl_nil, ← reached, Int64.toInt_inj, eq_comm]
    exact Option.some_inj
  | cons c chars ih =>
    obtain ⟨digit, digits⟩ := List.forall_mem_cons.mp digits
    have step {n' : Int64} := @readDigit?_eq_some_iff k n n' c reached digit
    rw [List.foldlM_cons, List.foldl_cons, Option.bind_eq_bind, Option.bind_eq_some_iff]
    constructor
    · rintro ⟨n', first, rest⟩
      exact (ih (step.mp first) digits).mp rest
    · intro whole
      have grows := le_foldl_digits (10 * k + digitValue c) chars
      have high := m.toInt_lt
      have fits : (Int64.ofNat (10 * k + digitValue c)).toInt = (10 * k + digitValue c : Nat) :=
        Int64.toInt_ofNat_of_lt (by omega)
      exact ⟨_, step.mpr fits, (ih fits digits).mpr whole⟩

theorem readInt?_eq_some_iff {text : String} {n : Int64} (digits : IsDigits text) :
    readInt? text.toList = some n ↔ n.toInt = decimalValue text := by
  rw [← digitsToNat_eq_decimalValue]
  exact foldlM_readDigit?_eq_some_iff rfl digits.2

/-! ## Every text -/

/-- The text is a number that a value can hold. -/
def IsNumber (text : String) : Prop :=
  IsDigits text ∧ decimalValue text ≤ 2 ^ 63 - 1

theorem isNumber_iff_digitsToNat {text : String} :
    IsNumber text ↔ IsDigits text ∧ digitsToNat text.toList ≤ maxInt := by
  rw [IsNumber, digitsToNat_eq_decimalValue]
  rfl

theorem spells_true_iff {text : String} :
    Spells text "true" ↔ sameIgnoringCase text "true" = true :=
  (sameIgnoringCase_iff_spells (by simp)).symm

theorem spells_false_iff {text : String} :
    Spells text "false" ↔ sameIgnoringCase text "false" = true :=
  (sameIgnoringCase_iff_spells (by simp)).symm

theorem coerce_eq_iff {text : String} {value : Value} :
    coerce text = value ↔ Coerces text value :=
  ⟨fun same => same ▸ coerces_coerce text, Coerces.coerce_eq⟩

theorem coerce_eq_int_iff {text : String} {n : Int64} :
    coerce text = .int n ↔ IsNumber text ∧ n.toInt = decimalValue text := by
  have exact (fits : decimalValue text ≤ 2 ^ 63 - 1) :
      (Int64.ofNat (decimalValue text)).toInt = decimalValue text :=
    Int64.toInt_ofNat_of_lt (Nat.lt_of_le_of_lt fits (by decide))
  rw [coerce_eq_iff]
  constructor
  · intro reads
    cases reads with
    | number digits fits =>
      have number := isNumber_iff_digitsToNat.mpr ⟨digits, fits⟩
      rw [digitsToNat_eq_decimalValue]
      exact ⟨number, exact number.2⟩
  · rintro ⟨number, spelled⟩
    obtain ⟨digits, fits⟩ := isNumber_iff_digitsToNat.mp number
    have same : n = Int64.ofNat (digitsToNat text.toList) := by
      rw [digitsToNat_eq_decimalValue, ← Int64.toInt_inj, spelled, exact number.2]
    exact same ▸ .number digits fits

theorem coerce_eq_text_iff {raw text : String} :
    coerce raw = .text text ↔
      text = raw ∧ ¬ Spells raw "true" ∧ ¬ Spells raw "false" ∧ ¬ IsNumber raw := by
  rw [coerce_eq_iff, spells_true_iff, spells_false_iff, isNumber_iff_digitsToNat, not_and,
    Nat.not_le, Bool.not_eq_true, Bool.not_eq_true]
  constructor
  · intro reads
    cases reads with
    | text notYes notNo unfit => exact ⟨rfl, notYes, notNo, unfit⟩
  · rintro ⟨rfl, notYes, notNo, unfit⟩
    exact .text notYes notNo unfit

/-- A text is read as what it spells: as a boolean if it is the word for it in any case, as a number
if it is a run of digits, however long, whose number an integer of 64 bits can be, and else as the
text that it is.  The number is the one that a reader of that width comes to without overflowing. -/
theorem coerce_reads_exactly (text : String) :
    (coerce text = .bool true ↔ Spells text "true") ∧
    (coerce text = .bool false ↔ Spells text "false") ∧
    (∀ n : Int64, coerce text = .int n ↔ IsNumber text ∧ n.toInt = decimalValue text) ∧
    (∀ n : Int64, coerce text = .int n ↔ IsDigits text ∧ readInt? text.toList = some n) ∧
    (∀ other : String, coerce text = .text other ↔
      other = text ∧ ¬ Spells text "true" ∧ ¬ Spells text "false" ∧ ¬ IsNumber text) ∧
    coerce text ≠ .absent ∧
    ¬ ∃ n : Int64, n < 0 ∧ coerce text = .int n := by
  refine ⟨?_, ?_, fun n => coerce_eq_int_iff, fun n => ?_, fun other => coerce_eq_text_iff, ?_, ?_⟩
  · rw [coerce_eq_iff, spells_true_iff]
    exact ⟨fun reads => by cases reads with | yes word => exact word, .yes⟩
  · rw [coerce_eq_iff, spells_false_iff]
    exact ⟨fun reads => by cases reads with | no word => exact word, .no⟩
  · rw [coerce_eq_int_iff]
    constructor
    · rintro ⟨⟨digits, -⟩, spelled⟩
      exact ⟨digits, (readInt?_eq_some_iff digits).mpr spelled⟩
    · rintro ⟨digits, read⟩
      have spelled := (readInt?_eq_some_iff digits).mp read
      have high := n.toInt_lt
      exact ⟨⟨digits, by omega⟩, spelled⟩
  · rw [ne_eq, coerce_eq_iff]
    intro reads
    cases reads
  · rintro ⟨n, negative, reads⟩
    have spelled := (coerce_eq_int_iff.mp reads).2
    rw [Int64.lt_iff_toInt_lt, spelled] at negative
    exact absurd negative (by simp)

example : coerce "0009223372036854775807" = .int 9223372036854775807 ∧
    coerce "9223372036854775808" = .text "9223372036854775808" := by decide

end PathRouting.Value
