import Mathlib.Data.List.TakeWhile
import PathRouting.Proofs.Pattern.Runs
import PathRouting.Proofs.Text.Boundaries

/-!
# Searches stay in range

A search that looks up instructions, slots and bytes by number, and that stops with a fault where a
number is out of range or a position lies inside a character.  The programs that patterns are
compiled to are sealed: what an instruction leads to and what it fills is there.  In a sealed
program no search faults, and the search that patterns are matched by is the one that checks.
-/

namespace PathRouting.Pattern

open PathRouting.Text

/-! ## Sealed programs -/

/-- What the instruction at `pc` leads to and fills lies in a program of `size` instructions and
`slots` slots, and its bytes are those of a text. -/
def Inst.Fits (slots size pc : Nat) : Inst → Prop
  | literal bytes => pc + 1 < size ∧ ∃ text, bytes = utf8 text
  | token slot => pc + 1 < size ∧ slot < slots
  | split target => pc < target ∧ target < size
  | accept => True

structure Program.Sealed (program : Program) : Prop where
  nonempty : 0 < program.insts.size
  fits {pc : Nat} {inst : Inst} : program.insts[pc]? = some inst →
    inst.Fits program.slots program.insts.size pc

/-- The code fits in if it stands from instruction `base` on. -/
def FitsFrom (slots size base : Nat) (code : List Inst) : Prop :=
  ∀ (k : Nat) (inst : Inst), code[k]? = some inst → inst.Fits slots size (base + k)

section

variable {slots size base slot : Nat}

theorem fitsFrom_append {code later : List Inst} (fits : FitsFrom slots size base code)
    (fitsLater : FitsFrom slots size (base + code.length) later) :
    FitsFrom slots size base (code ++ later) := by
  intro k inst found
  by_cases inside : k < code.length
  · rw [List.getElem?_append_left inside] at found
    exact fits k inst found
  · have behind : code.length ≤ k := Nat.le_of_not_lt inside
    have position : base + code.length + (k - code.length) = base + k := by omega
    rw [List.getElem?_append_right behind] at found
    rw [← position]
    exact fitsLater _ inst found

theorem fitsFrom_cons {inst : Inst} {code : List Inst} (fits : inst.Fits slots size base)
    (fitsLater : FitsFrom slots size (base + 1) code) :
    FitsFrom slots size base (inst :: code) := by
  intro k other found
  cases k with
  | zero =>
    obtain rfl : inst = other := Option.some.inj found
    exact fits
  | succ k =>
    have position : base + 1 + k = base + (k + 1) := by omega
    rw [← position]
    exact fitsLater k other found

theorem fitsFrom_nil : FitsFrom slots size base [] := nofun

theorem Piece.fitsFrom_code (p : Piece) (inCode : base + (p.code base slot).length < size)
    (inSlots : slot + p.slots ≤ slots) : FitsFrom slots size base (p.code base slot) := by
  cases p with
  | literal text => exact fitsFrom_cons ⟨inCode, text, rfl⟩ fitsFrom_nil
  | token name optional =>
    have inSlots : slot < slots := inSlots
    cases optional with
    | false => exact fitsFrom_cons ⟨inCode, inSlots⟩ fitsFrom_nil
    | true =>
      have inCode : base + 2 < size := inCode
      exact fitsFrom_cons ⟨by omega, inCode⟩ (fitsFrom_cons ⟨inCode, inSlots⟩ fitsFrom_nil)

theorem Piece.fitsFrom_codeAll (body : List Piece) :
    ∀ {base slot : Nat}, base + (codeAll base slot body).length < size →
      slot + (body.map Piece.slots).foldr (· + ·) 0 ≤ slots →
      FitsFrom slots size base (codeAll base slot body) := by
  induction body with
  | nil => exact fun _ _ => fitsFrom_nil
  | cons p body ih =>
    intro base slot inCode inSlots
    simp only [codeAll, List.length_append, List.map_cons, List.foldr_cons] at inCode inSlots ⊢
    refine fitsFrom_append (p.fitsFrom_code ?_ ?_) (ih ?_ ?_) <;> omega

theorem Segment.fitsFrom_code (s : Segment) (inCode : base + (s.code base slot).length < size)
    (inSlots : slot + s.slots ≤ slots) : FitsFrom slots size base (s.code base slot) := by
  cases s with
  | piece p => exact p.fitsFrom_code inCode inSlots
  | group body =>
    simp only [code, List.length_cons] at inCode
    refine fitsFrom_cons ⟨?_, ?_⟩ (Piece.fitsFrom_codeAll body ?_ inSlots) <;> omega

theorem Segment.fitsFrom_codeAll (segments : List Segment) :
    ∀ {base slot : Nat}, base + (codeAll base slot segments).length < size →
      slot + (segments.map Segment.slots).foldr (· + ·) 0 ≤ slots →
      FitsFrom slots size base (codeAll base slot segments) := by
  induction segments with
  | nil => exact fun _ _ => fitsFrom_nil
  | cons s segments ih =>
    intro base slot inCode inSlots
    simp only [codeAll, List.length_append, List.map_cons, List.foldr_cons] at inCode inSlots ⊢
    refine fitsFrom_append (s.fitsFrom_code ?_ ?_) (ih ?_ ?_) <;> omega

end

theorem Program.sealed_compile (segments : List Segment) : (compile segments).Sealed where
  nonempty := by simp [compile]
  fits {pc inst} found := by
    have code : FitsFrom (compile segments).slots (compile segments).insts.size 0
        (Segment.codeAll 0 0 segments) := by
      apply Segment.fitsFrom_codeAll
      · simp [compile]
      · simp [compile]
    have last : FitsFrom (compile segments).slots (compile segments).insts.size
        (0 + (Segment.codeAll 0 0 segments).length) [.accept] :=
      fitsFrom_cons trivial fitsFrom_nil
    have fits := fitsFrom_append code last pc inst (by simpa [compile] using found)
    rwa [Nat.zero_add] at fits

/-! ## A search that checks -/

/-- The span is not empty, lies in the path and covers word bytes only. -/
def Span.HoldsWord (path : String) (span : Span) : Prop :=
  span.start < span.stop ∧ span.stop ≤ (utf8 path).length ∧
    ∀ b ∈ ((utf8 path).drop span.start).take (span.stop - span.start), isWordByte b = true

instance (path : String) (span : Span) : Decidable (span.HoldsWord path) :=
  inferInstanceAs (Decidable (_ ∧ _ ∧ _))

/-- The bytes from one number to another, if there are that many. -/
def window? (bytes : List UInt8) (start stop : Nat) : Option (List UInt8) :=
  if start ≤ stop ∧ stop ≤ bytes.length then some ((bytes.drop start).take (stop - start))
  else none

namespace Program

/-- Runs the program from instruction `pc` on the bytes of the path from `pos` on.  No result at all
is a fault: there is no such instruction or no such slot, the position is behind the path or inside
a character, what is captured is no word, or a split does not lead forward. -/
def searchChecked (program : Program) (path : String) (depth pc pos : Nat) (slots : Slots)
    (memo : Memo) : Option (Option Slots × Memo) :=
  if _inRange : pc < program.insts.size ∧ IsCut path pos then
    match program.insts[pc] with
    | .literal bytes =>
        let stop := pos + bytes.length
        if (window? (utf8 path) pos stop).any fun window =>
            window.map lowerByte == bytes.map lowerByte then
          program.searchChecked path depth (pc + 1) stop slots memo
        else some (none, memo)
    | .token slot =>
        let width := (((utf8 path).drop pos).takeWhile isWordByte).length
        if width = 0 then some (none, memo)
        else if slot < slots.size ∧ Span.HoldsWord path ⟨pos, pos + width⟩ then
          let slots := slots.setIfInBounds slot (some ⟨pos, pos + width⟩)
          match (utf8 path)[pos + width]? with
          | none => program.searchChecked path depth (pc + 1) (pos + width) slots memo
          | some b =>
              if b = slash then
                program.searchChecked path depth (pc + 1) (pos + width + 1) slots memo
              else some (none, memo)
        else none
    | .split target =>
        if memo.failed.contains (pc, pos) then some (none, memo)
        else if pc < target then
          match program.searchChecked path (depth + 1) (pc + 1) pos slots
              ((memo.expand (pc, pos)).enter (depth + 1)) with
          | none => none
          | some (some slots, memo) => some (some slots, memo)
          | some (none, memo) =>
              match program.searchChecked path (depth + 1) target pos slots
                  (memo.enter (depth + 1)) with
              | none => none
              | some (some slots, memo) => some (some slots, memo)
              | some (none, memo) => some (none, memo.fail (pc, pos))
        else none
    | .accept => some (if pos = (utf8 path).length then some slots else none, memo)
  else none
termination_by program.insts.size - pc

end Program

/-! ## Bytes by number -/

section

variable {bytes text left : List UInt8} {pos : Nat}

theorem eq_drop_of_dropText? (drops : dropText? text (bytes.drop pos) = some left) :
    left = bytes.drop (pos + text.length) := by
  rw [← List.drop_drop, drop_of_dropText? drops]

theorem any_window?_iff (inside : pos ≤ bytes.length) :
    (window? bytes pos (pos + text.length)).any
        (fun window => window.map lowerByte == text.map lowerByte) = true ↔
      ∃ left, dropText? text (bytes.drop pos) = some left := by
  have width : pos + text.length - pos = text.length := by omega
  simp only [window?, width, dropText?_eq_some_iff]
  constructor
  · intro agrees
    split at agrees
    · rw [Option.any_some, beq_iff_eq] at agrees
      exact ⟨_, _, (List.take_append_drop text.length (bytes.drop pos)).symm, agrees⟩
    · cases agrees
  · rintro ⟨left, taken, split, same⟩
    have length : taken.length = text.length := by simpa using congrArg List.length same
    have enough : pos + text.length ≤ bytes.length := by
      have total := congrArg List.length split
      rw [List.length_drop, List.length_append] at total
      omega
    rw [if_pos ⟨by omega, enough⟩, split, ← length, List.take_left, Option.any_some, beq_iff_eq]
    exact same

theorem takeWord?_drop (bytes : List UInt8) (pos : Nat) :
    takeWord? (bytes.drop pos) =
      let width := ((bytes.drop pos).takeWhile isWordByte).length
      if width = 0 then none
      else match bytes[pos + width]? with
        | none => some (width, false, [])
        | some b =>
            if b = slash then some (width, true, bytes.drop (pos + width + 1)) else none := by
  have split := List.takeWhile_append_dropWhile (p := isWordByte) (l := bytes.drop pos)
  rw [takeWord?]
  generalize (bytes.drop pos).takeWhile isWordByte = run at split ⊢
  generalize (bytes.drop pos).dropWhile isWordByte = after at split ⊢
  have behind : bytes.drop (pos + run.length) = after := by
    rw [← List.drop_drop, ← split, List.drop_left]
  have next : bytes[pos + run.length]? = after.head? := by
    rw [← List.head?_drop, behind]
  have rest : bytes.drop (pos + run.length + 1) = after.tail := by
    rw [← List.drop_drop, behind, List.drop_one]
  dsimp only
  rw [next, rest]
  cases run with
  | nil => rfl
  | cons first run => cases after <;> rfl

theorem slashed_of_takeWord? {width : Nat} {slashed : Bool}
    (takes : takeWord? (bytes.drop pos) = some (width, slashed, left)) :
    width = ((bytes.drop pos).takeWhile isWordByte).length ∧ width ≠ 0 ∧
      (slashed = true → bytes[pos + width]? = some slash) := by
  rw [takeWord?_drop] at takes
  generalize ((bytes.drop pos).takeWhile isWordByte).length = taken at takes ⊢
  dsimp only at takes
  split at takes
  · cases takes
  · rename_i nonempty
    cases after : bytes[pos + taken]? with
    | none =>
      simp only [after, Option.some.injEq, Prod.mk.injEq] at takes
      obtain ⟨rfl, rfl, -⟩ := takes
      exact ⟨rfl, nonempty, nofun⟩
    | some b =>
      simp only [after] at takes
      split at takes
      · rename_i isSlash
        simp only [Option.some.injEq, Prod.mk.injEq] at takes
        obtain ⟨rfl, rfl, -⟩ := takes
        exact ⟨rfl, nonempty, fun _ => isSlash ▸ after⟩
      · cases takes

theorem Span.holdsWord_takeWhile {path : String} {pos : Nat}
    (nonempty : (((utf8 path).drop pos).takeWhile isWordByte).length ≠ 0) :
    Span.HoldsWord path ⟨pos, pos + (((utf8 path).drop pos).takeWhile isWordByte).length⟩ := by
  have bytes : ∀ b ∈ ((utf8 path).drop pos).takeWhile isWordByte, isWordByte b = true :=
    fun b member => List.mem_takeWhile_imp member
  have inside := (List.takeWhile_prefix isWordByte (l := (utf8 path).drop pos)).length_le
  have front := List.prefix_iff_eq_take.mp
    (List.takeWhile_prefix isWordByte (l := (utf8 path).drop pos))
  rw [List.length_drop] at inside
  refine ⟨?_, ?_, ?_⟩
  · simp only
    omega
  · simp only
    omega
  · simp only [Nat.add_sub_cancel_left]
    rwa [← front]

end

/-! ## The checks succeed -/

namespace Program

variable {program : Program} {path : String}

/-- From a position where the checks succeed, a sealed program never faults. -/
theorem searchChecked_eq (isSealed : program.Sealed) (depth : Nat) {pc pos : Nat}
    {rest : List UInt8} {slots : Slots} {memo : Memo} (here : rest = (utf8 path).drop pos)
    (cut : IsCut path pos) (inRange : pc < program.insts.size)
    (size : slots.size = program.slots) :
    program.searchChecked path depth pc pos slots memo =
      some (program.search depth pc pos rest slots memo) := by
  fun_induction program.search depth pc pos rest slots memo with
  | case1 depth pc pos rest slots memo inRange bytes found left drops ih =>
    subst here
    obtain ⟨next, text, rfl⟩ := isSealed.fits (fetch_of_getElem found)
    have agrees := (any_window?_iff cut.le_length).mpr ⟨left, drops⟩
    rw [searchChecked, dif_pos ⟨inRange, cut⟩]
    simp only [found, agrees, if_true]
    exact ih (eq_drop_of_dropText? drops) (cut.literal drops) next size
  | case2 depth pc pos rest slots memo inRange bytes found drops =>
    subst here
    have differs : ¬ (window? (utf8 path) pos (pos + bytes.length)).any
        (fun window => window.map lowerByte == bytes.map lowerByte) = true := by
      rw [any_window?_iff cut.le_length, drops]
      simp
    rw [searchChecked, dif_pos ⟨inRange, cut⟩]
    simp only [found, differs]
    rfl
  | case3 depth pc pos rest slots memo inRange slot found width slashed left takes ih =>
    subst here
    obtain ⟨next, inSlots⟩ := isSealed.fits (fetch_of_getElem found)
    have word := cut.word
    have holds := @Span.holdsWord_takeWhile path pos
    rw [takeWord?_drop] at takes
    rw [searchChecked, dif_pos ⟨inRange, cut⟩]
    simp only [found] at takes ⊢
    generalize (((utf8 path).drop pos).takeWhile isWordByte).length = taken at takes word holds ⊢
    by_cases empty : taken = 0
    · simp [empty] at takes
    · rw [if_neg empty] at takes ⊢
      rw [if_pos ⟨size ▸ inSlots, holds empty⟩]
      have size' : (slots.setIfInBounds slot (some ⟨pos, pos + taken⟩)).size = program.slots := by
        rw [Array.size_setIfInBounds, size]
      cases after : (utf8 path)[pos + taken]? with
      | none =>
        simp only [after, Option.some.injEq, Prod.mk.injEq] at takes ⊢
        obtain ⟨rfl, rfl, rfl⟩ := takes
        have atEnd : (utf8 path).length ≤ pos + taken := List.getElem?_eq_none_iff.mp after
        exact ih (List.drop_eq_nil_of_le atEnd).symm word next size'
      | some b =>
        simp only [after] at takes ⊢
        by_cases slashed : b = slash
        · subst slashed
          simp only [if_true, Option.some.injEq, Prod.mk.injEq] at takes ⊢
          obtain ⟨rfl, rfl, rfl⟩ := takes
          exact ih rfl (word.slash after) next size'
        · simp [slashed] at takes
  | case4 depth pc pos rest slots memo inRange slot found takes =>
    subst here
    obtain ⟨next, inSlots⟩ := isSealed.fits (fetch_of_getElem found)
    have holds := @Span.holdsWord_takeWhile path pos
    rw [takeWord?_drop] at takes
    rw [searchChecked, dif_pos ⟨inRange, cut⟩]
    simp only [found] at takes ⊢
    generalize (((utf8 path).drop pos).takeWhile isWordByte).length = taken at takes holds ⊢
    by_cases empty : taken = 0
    · rw [if_pos empty]
    · rw [if_neg empty] at takes ⊢
      rw [if_pos ⟨size ▸ inSlots, holds empty⟩]
      cases after : (utf8 path)[pos + taken]? with
      | none => simp [after] at takes
      | some b =>
        simp only [after] at takes ⊢
        by_cases slashed : b = slash
        · simp [slashed] at takes
        · rw [if_neg slashed]
  | case5 depth pc pos rest slots memo inRange target found known =>
    rw [searchChecked, dif_pos ⟨inRange, cut⟩]
    simp only [found, known, if_true]
  | case6 depth pc pos rest slots memo inRange target found fresh forward slots₁ memo₁ result₁
      ihTake =>
    obtain ⟨-, next⟩ := isSealed.fits (fetch_of_getElem found)
    have taken := ihTake here cut (by omega) size
    rw [searchChecked, dif_pos ⟨inRange, cut⟩]
    simp only [found, fresh, forward, if_true, taken, result₁]
    rfl
  | case7 depth pc pos rest slots memo inRange target found fresh forward memo₁ result₁ slots₂
      memo₂ result₂ ihTake ihSkip =>
    obtain ⟨-, next⟩ := isSealed.fits (fetch_of_getElem found)
    have taken := ihTake here cut (by omega) size
    have skipped := ihSkip here cut next size
    rw [searchChecked, dif_pos ⟨inRange, cut⟩]
    simp only [found, fresh, forward, if_true, taken, result₁, skipped, result₂]
    rfl
  | case8 depth pc pos rest slots memo inRange target found fresh forward memo₁ result₁ memo₂
      result₂ ihTake ihSkip =>
    obtain ⟨-, next⟩ := isSealed.fits (fetch_of_getElem found)
    have taken := ihTake here cut (by omega) size
    have skipped := ihSkip here cut next size
    rw [searchChecked, dif_pos ⟨inRange, cut⟩]
    simp only [found, fresh, forward, if_true, taken, result₁, skipped, result₂]
    rfl
  | case9 depth pc pos rest slots memo inRange target found fresh backward =>
    obtain ⟨forward, -⟩ := isSealed.fits (fetch_of_getElem found)
    exact absurd forward backward
  | case10 depth pc pos rest slots memo inRange found finished =>
    have atEnd : pos = (utf8 path).length := by
      rw [here, List.isEmpty_iff, List.drop_eq_nil_iff] at finished
      exact Nat.le_antisymm cut.le_length finished
    rw [searchChecked, dif_pos ⟨inRange, cut⟩]
    simp only [found, ← atEnd, if_true]
  | case11 depth pc pos rest slots memo inRange found unfinished =>
    have before : pos ≠ (utf8 path).length := by
      rintro rfl
      rw [here, List.drop_length] at unfinished
      exact unfinished rfl
    rw [searchChecked, dif_pos ⟨inRange, cut⟩]
    simp only [found, before, if_false]
  | case12 depth pc pos rest slots memo outOfRange => exact absurd inRange outOfRange

end Program

/-! ## What is captured -/

/-- Every span that is kept in a slot covers a word of the path, from one cut to another. -/
def Slots.Words (path : String) (slots : Slots) : Prop :=
  ∀ (slot : Nat) (span : Span), slots[slot]? = some (some span) →
    span.HoldsWord path ∧ IsCut path span.start ∧ IsCut path span.stop

section

variable {path : String} {slots : Slots}

theorem Slots.words_replicate (path : String) (count : Nat) :
    Slots.Words path (Array.replicate count none) := by
  intro slot span found
  simp [Array.getElem?_replicate] at found

theorem Slots.Words.set (words : slots.Words path) {slot : Nat} {span : Span}
    (holds : span.HoldsWord path) (start : IsCut path span.start) (stop : IsCut path span.stop) :
    Slots.Words path (slots.setIfInBounds slot (some span)) := by
  intro other found' found
  by_cases same : slot = other
  · subst same
    rw [Array.getElem?_setIfInBounds_self] at found
    split at found
    · obtain rfl : span = found' := Option.some.inj (Option.some.inj found)
      exact ⟨holds, start, stop⟩
    · cases found
  · rw [Array.getElem?_setIfInBounds_ne same] at found
    exact words other found' found

theorem Program.Runs.words {program : Program} {choices : List Choice} {pc pos : Nat}
    {rest : List UInt8} {final : Slots} (isSealed : program.Sealed)
    (run : program.Runs choices pc pos rest slots final) (here : rest = (utf8 path).drop pos)
    (cut : IsCut path pos) (words : slots.Words path) : final.Words path := by
  induction run with
  | accept _ => exact words
  | literal fetch drops _ ih =>
    subst here
    obtain ⟨-, text, rfl⟩ := isSealed.fits fetch
    exact ih (eq_drop_of_dropText? drops) (cut.literal drops) words
  | @token choices pc pos slot width slashed rest left slots final fetch takes _ ih =>
    have left_eq : left = (utf8 path).drop (pos + width + slashed.toNat) := by
      rw [Nat.add_assoc, ← List.drop_drop, ← here, drop_of_takeWord? takes]
    rw [here] at takes
    obtain ⟨width_eq, nonempty, slash⟩ := slashed_of_takeWord? takes
    have stop : IsCut path (pos + width) := width_eq ▸ cut.word
    have holds : Span.HoldsWord path ⟨pos, pos + width⟩ := by
      rw [width_eq] at nonempty ⊢
      exact Span.holdsWord_takeWhile nonempty
    refine ih left_eq ?_ (words.set holds cut stop)
    cases slashed with
    | false => exact stop
    | true => exact stop.slash (slash rfl)
  | take _ _ _ ih | skip _ _ _ ih => exact ih here cut words

theorem Span.slice?_eq_text {span : Span} (holds : span.HoldsWord path)
    (start : IsCut path span.start) (stop : IsCut path span.stop) :
    slice? path span.start span.stop = some (Span.text (utf8 path) span) := by
  obtain ⟨first, last⟩ := span
  obtain ⟨forward, -, bytes⟩ := holds
  obtain ⟨front, back, split, rfl⟩ := isCut_iff.mp start
  obtain ⟨front', back', split', rfl⟩ := isCut_iff.mp stop
  dsimp only at forward bytes ⊢
  rcases List.append_eq_append_iff.mp (split.symm.trans split') with
    ⟨middle, rfl, rfl⟩ | ⟨more, rfl, -⟩
  · have whole : path.toList = front ++ middle ++ back' := split'
    have width : (encode (front ++ middle)).length - (encode front).length =
        (encode middle).length := by
      rw [encode_append, List.length_append, Nat.add_sub_cancel_left]
    have cutOut : ((utf8 path).drop (encode front).length).take (encode middle).length =
        encode middle := by
      rw [utf8_eq_encode, whole, List.append_assoc, encode_append, List.drop_left, encode_append,
        List.take_left]
    rw [width, cutOut] at bytes
    have nonempty : middle ≠ [] := by
      rintro rfl
      simp at forward
    have word : IsWord (String.ofList middle) := by
      rw [IsWord, String.toList_ofList]
      exact ⟨nonempty, isWordChar_of_encode bytes⟩
    have spelled : utf8 (String.ofList middle) = encode middle := by
      rw [utf8_eq_encode, String.toList_ofList]
    rw [slice?_eq_some whole, Span.text]
    dsimp only
    rw [width, cutOut, ← spelled, word.asciiText_utf8]
  · rw [encode_append, List.length_append] at forward
    omega

end

/-- The text that a slot has captured, cut out of the path. -/
def Span.cut? (path : String) : Option Span → Option (Option String)
  | none => some none
  | some span => (slice? path span.start span.stop).map some

theorem mapM_cut? {path : String} {slots : Slots} (words : slots.Words path) :
    slots.toList.mapM (Span.cut? path) =
      some (slots.toList.map (·.map (Span.text (utf8 path)))) := by
  have cuts : ∀ slot ∈ slots.toList,
      Span.cut? path slot = some (slot.map (Span.text (utf8 path))) := by
    intro slot member
    cases slot with
    | none => rfl
    | some span =>
      obtain ⟨index, found⟩ := List.getElem?_of_mem member
      obtain ⟨holds, start, stop⟩ := words index span (by simpa using found)
      rw [Span.cut?, Span.slice?_eq_text holds start stop]
      rfl
  generalize slots.toList = captured at cuts ⊢
  induction captured with
  | nil => rfl
  | cons slot captured ih =>
    rw [List.mapM_cons, cuts slot List.mem_cons_self,
      ih fun other member => cuts other (List.mem_cons_of_mem slot member)]
    rfl

namespace Program

/-- What the program captures on a path.  A word that may not be cut out of the path is a fault. -/
def capturesChecked (program : Program) (path : String) : Option (Option (List (Option String))) :=
  match program.searchChecked path 0 0 0 (Array.replicate program.slots none)
      (Memo.empty.enter 0) with
  | none => none
  | some (none, _) => some none
  | some (some slots, _) => (slots.toList.mapM (Span.cut? path)).map some

theorem Sealed.capturesChecked {program : Program} (isSealed : program.Sealed) (path : String) :
    program.capturesChecked path = some (program.captures path) := by
  have searched : program.searchChecked path 0 0 0 (Array.replicate program.slots none)
      (Memo.empty.enter 0) = some (program.run (utf8 path)) :=
    searchChecked_eq isSealed 0 rfl (isCut_zero path) isSealed.nonempty Array.size_replicate
  have decided := program.run_decides (utf8 path)
  simp only [Program.capturesChecked, searched, captures]
  generalize program.run (utf8 path) = result at decided
  obtain ⟨_ | slots, memo⟩ := result
  · rfl
  · obtain ⟨choices, first⟩ := decided
    have words : slots.Words path := first.runs.words isSealed rfl (isCut_zero path)
      (Slots.words_replicate path program.slots)
    simp only [mapM_cut? words]
    rfl

end Program

end PathRouting.Pattern
