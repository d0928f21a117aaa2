import PathRouting.Proofs.Backtracking
import PathRouting.Proofs.Pattern.Emission
import PathRouting.Proofs.Pattern.InRange
import PathRouting.Proofs.Pattern.Layout

/-!
# Searches end

Every instruction of a compiled program leads forward and none leads out of the program.  So a
search ends wherever it starts, without any check that it does, and it enters itself only at splits,
each behind the one before.
-/

namespace PathRouting.Pattern

open PathRouting.Text

namespace Program

variable {program : Program}

/-! ## Searches without checks -/

/-- A search that is at `pc` can go on at `next`. -/
inductive Moves (program : Program) : Nat → Nat → Prop where
  | literal {pc : Nat} {bytes : List UInt8} (fetch : program.insts[pc]? = some (.literal bytes)) :
      Moves program pc (pc + 1)
  | token {pc slot : Nat} (fetch : program.insts[pc]? = some (.token slot)) :
      Moves program pc (pc + 1)
  | take {pc target : Nat} (fetch : program.insts[pc]? = some (.split target)) :
      Moves program pc (pc + 1)
  | skip {pc target : Nat} (fetch : program.insts[pc]? = some (.split target)) :
      Moves program pc target

/-- A search from instruction `pc` on the bytes `rest`, which start at byte `pos`, ends with a
result.  It follows the instructions wherever they lead, so on a program that is not compiled it
might go around in circles or come to an instruction that is not there, and would not end.  It has
`frames` searches inside one another, itself included; `failed` are the splits that are known to
fail before it, and those after it come last. -/
inductive Ends (program : Program) : Nat → Nat → Nat → List UInt8 → Slots →
    Std.HashSet (Nat × Nat) → Option Slots → Std.HashSet (Nat × Nat) → Prop where
  | accept {pc pos : Nat} {rest : List UInt8} {slots : Slots} {failed : Std.HashSet (Nat × Nat)}
      (fetch : program.insts[pc]? = some .accept) :
      Ends program 1 pc pos rest slots failed (if rest.isEmpty then some slots else none) failed
  | literal {frames pc pos : Nat} {bytes rest left : List UInt8} {slots : Slots}
      {failed failed' : Std.HashSet (Nat × Nat)} {result : Option Slots}
      (fetch : program.insts[pc]? = some (.literal bytes))
      (drops : dropText? bytes rest = some left)
      (next : Ends program frames (pc + 1) (pos + bytes.length) left slots failed result failed') :
      Ends program frames pc pos rest slots failed result failed'
  | noLiteral {pc pos : Nat} {bytes rest : List UInt8} {slots : Slots}
      {failed : Std.HashSet (Nat × Nat)} (fetch : program.insts[pc]? = some (.literal bytes))
      (differs : dropText? bytes rest = none) : Ends program 1 pc pos rest slots failed none failed
  | token {frames pc pos slot width : Nat} {slashed : Bool} {rest left : List UInt8} {slots : Slots}
      {failed failed' : Std.HashSet (Nat × Nat)} {result : Option Slots}
      (fetch : program.insts[pc]? = some (.token slot))
      (takes : takeWord? rest = some (width, slashed, left))
      (next : Ends program frames (pc + 1) (pos + width + slashed.toNat) left
        (slots.setIfInBounds slot (some ⟨pos, pos + width⟩)) failed result failed') :
      Ends program frames pc pos rest slots failed result failed'
  | noToken {pc pos slot : Nat} {rest : List UInt8} {slots : Slots}
      {failed : Std.HashSet (Nat × Nat)} (fetch : program.insts[pc]? = some (.token slot))
      (noWord : takeWord? rest = none) : Ends program 1 pc pos rest slots failed none failed
  | known {pc pos target : Nat} {rest : List UInt8} {slots : Slots}
      {failed : Std.HashSet (Nat × Nat)} (fetch : program.insts[pc]? = some (.split target))
      (member : failed.contains (pc, pos) = true) :
      Ends program 1 pc pos rest slots failed none failed
  | take {frames pc pos target : Nat} {rest : List UInt8} {slots final : Slots}
      {failed failed' : Std.HashSet (Nat × Nat)}
      (fetch : program.insts[pc]? = some (.split target))
      (unknown : failed.contains (pc, pos) = false)
      (taken : Ends program frames (pc + 1) pos rest slots failed (some final) failed') :
      Ends program (frames + 1) pc pos rest slots failed (some final) failed'
  | skip {frames frames' pc pos target : Nat} {rest : List UInt8} {slots final : Slots}
      {failed between failed' : Std.HashSet (Nat × Nat)}
      (fetch : program.insts[pc]? = some (.split target))
      (unknown : failed.contains (pc, pos) = false)
      (taken : Ends program frames (pc + 1) pos rest slots failed none between)
      (skipped : Ends program frames' target pos rest slots between (some final) failed') :
      Ends program (max frames frames' + 1) pc pos rest slots failed (some final) failed'
  | fail {frames frames' pc pos target : Nat} {rest : List UInt8} {slots : Slots}
      {failed between failed' : Std.HashSet (Nat × Nat)}
      (fetch : program.insts[pc]? = some (.split target))
      (unknown : failed.contains (pc, pos) = false)
      (taken : Ends program frames (pc + 1) pos rest slots failed none between)
      (skipped : Ends program frames' target pos rest slots between none failed') :
      Ends program (max frames frames' + 1) pc pos rest slots failed none (failed'.insert (pc, pos))

/-! ## Moves lead forward -/

theorem Sealed.forward (isSealed : program.Sealed) {pc next : Nat}
    (moves : program.Moves pc next) : pc < next ∧ next < program.insts.size := by
  cases moves with
  | literal fetch => exact ⟨Nat.lt_succ_self pc, (isSealed.fits fetch).1⟩
  | token fetch => exact ⟨Nat.lt_succ_self pc, (isSealed.fits fetch).1⟩
  | take fetch =>
    obtain ⟨forward, inRange⟩ := isSealed.fits fetch
    exact ⟨Nat.lt_succ_self pc, Nat.lt_of_le_of_lt forward inRange⟩
  | skip fetch => exact isSealed.fits fetch

/-! ## How far searches lie inside one another -/

/-- How many splits the program has from instruction `pc` on. -/
def splitsFrom (program : Program) (pc : Nat) : Nat :=
  (program.insts.toList.drop pc).countP Inst.isSplit

theorem splitsFrom_zero : program.splitsFrom 0 = program.splits := by
  rw [splitsFrom, splits, List.drop_zero]

theorem splitsFrom_le {pc pc' : Nat} (later : pc ≤ pc') :
    program.splitsFrom pc' ≤ program.splitsFrom pc := by
  refine List.Sublist.countP_le ?_
  rw [← Nat.add_sub_of_le later, ← List.drop_drop]
  exact List.drop_sublist _ _

theorem splitsFrom_split {pc target : Nat} (fetch : program.insts[pc]? = some (.split target)) :
    program.splitsFrom pc = program.splitsFrom (pc + 1) + 1 := by
  rw [← Array.getElem?_toList] at fetch
  obtain ⟨inRange, found⟩ := List.getElem?_eq_some_iff.mp fetch
  rw [splitsFrom, List.drop_eq_getElem_cons inRange, found, List.countP_cons_of_pos rfl]
  rfl

theorem Sealed.splitsFrom_target (isSealed : program.Sealed) {pc target : Nat}
    (fetch : program.insts[pc]? = some (.split target)) :
    program.splitsFrom target ≤ program.splitsFrom (pc + 1) :=
  splitsFrom_le (isSealed.forward (.skip fetch)).1

/-- Only a split enters a search inside a search, and then the splits ahead are fewer. -/
theorem Ends.frames_le (isSealed : program.Sealed) {frames pc pos : Nat} {rest : List UInt8}
    {slots : Slots} {failed failed' : Std.HashSet (Nat × Nat)} {result : Option Slots}
    (ends : program.Ends frames pc pos rest slots failed result failed') :
    frames ≤ program.splitsFrom pc + 1 := by
  induction ends with
  | accept | noLiteral | noToken | known => exact Nat.le_add_left 1 _
  | literal fetch _ _ ih | token fetch _ _ ih =>
    exact ih.trans (Nat.succ_le_succ (splitsFrom_le (Nat.le_succ _)))
  | take fetch _ _ ih =>
    rw [splitsFrom_split fetch]
    exact Nat.succ_le_succ ih
  | skip fetch _ _ _ ihTake ihSkip | fail fetch _ _ _ ihTake ihSkip =>
    -- Both searches below a split meet later splits only, also the one that jumps to its target.
    rw [splitsFrom_split fetch]
    have ahead := isSealed.splitsFrom_target fetch
    exact Nat.succ_le_succ (max_le ihTake (ihSkip.trans (Nat.succ_le_succ ahead)))

theorem Ends.frames_pos {frames pc pos : Nat} {rest : List UInt8}
    {slots : Slots} {failed failed' : Std.HashSet (Nat × Nat)} {result : Option Slots}
    (ends : program.Ends frames pc pos rest slots failed result failed') : 1 ≤ frames := by
  induction ends with
  | accept | noLiteral | noToken | known => exact Nat.le_refl 1
  | literal _ _ _ ih | token _ _ _ ih => exact ih
  | take | skip | fail => exact Nat.le_add_left 1 _

/-! ## Every search ends -/

/-- From every instruction of a sealed program the search ends without its checks, as it does with
them. -/
theorem search_ends (isSealed : program.Sealed) (depth : Nat) {pc : Nat} (pos : Nat)
    (rest : List UInt8) (slots : Slots) (memo : Memo) (inRange : pc < program.insts.size) :
    ∃ frames, program.Ends frames pc pos rest slots memo.failed
      (program.search depth pc pos rest slots memo).1
      (program.search depth pc pos rest slots memo).2.failed := by
  fun_induction program.search depth pc pos rest slots memo with
  | case1 depth pc pos rest slots memo _ bytes found left drops ih =>
    have fetch := fetch_of_getElem found
    obtain ⟨frames, ends⟩ := ih (isSealed.forward (.literal fetch)).2
    exact ⟨frames, .literal fetch drops ends⟩
  | case2 depth pc pos rest slots memo _ bytes found differs =>
    exact ⟨1, .noLiteral (fetch_of_getElem found) differs⟩
  | case3 depth pc pos rest slots memo _ slot found width slashed left takes ih =>
    have fetch := fetch_of_getElem found
    obtain ⟨frames, ends⟩ := ih (isSealed.forward (.token fetch)).2
    exact ⟨frames, .token fetch takes ends⟩
  | case4 depth pc pos rest slots memo _ slot found noWord =>
    exact ⟨1, .noToken (fetch_of_getElem found) noWord⟩
  | case5 depth pc pos rest slots memo _ target found known =>
    exact ⟨1, .known (fetch_of_getElem found) known⟩
  | case6 depth pc pos rest slots memo _ target found unknown _ final memo' result ih =>
    have fetch := fetch_of_getElem found
    obtain ⟨frames, taken⟩ := ih (isSealed.forward (.take fetch)).2
    rw [result] at taken
    exact ⟨frames + 1, .take fetch (Bool.eq_false_of_not_eq_true unknown) taken⟩
  | case7 depth pc pos rest slots memo _ target found unknown _ memo₁ result₁ final memo₂ result₂
      ihTake ihSkip =>
    have fetch := fetch_of_getElem found
    obtain ⟨frames, taken⟩ := ihTake (isSealed.forward (.take fetch)).2
    obtain ⟨frames', skipped⟩ := ihSkip (isSealed.forward (.skip fetch)).2
    rw [result₁] at taken
    rw [result₂] at skipped
    exact ⟨_, .skip fetch (Bool.eq_false_of_not_eq_true unknown) taken skipped⟩
  | case8 depth pc pos rest slots memo _ target found unknown _ memo₁ result₁ memo₂ result₂
      ihTake ihSkip =>
    have fetch := fetch_of_getElem found
    obtain ⟨frames, taken⟩ := ihTake (isSealed.forward (.take fetch)).2
    obtain ⟨frames', skipped⟩ := ihSkip (isSealed.forward (.skip fetch)).2
    rw [result₁] at taken
    rw [result₂] at skipped
    exact ⟨_, .fail fetch (Bool.eq_false_of_not_eq_true unknown) taken skipped⟩
  | case9 depth pc pos rest slots memo _ target found unknown backward =>
    exact absurd (isSealed.forward (.skip (fetch_of_getElem found))).1 backward
  | case10 depth pc pos rest slots memo _ found finished =>
    have ends : program.Ends 1 pc pos rest slots memo.failed
        (if rest.isEmpty then some slots else none) memo.failed := .accept (fetch_of_getElem found)
    rw [if_pos finished] at ends
    exact ⟨1, ends⟩
  | case11 depth pc pos rest slots memo _ found unfinished =>
    have ends : program.Ends 1 pc pos rest slots memo.failed
        (if rest.isEmpty then some slots else none) memo.failed := .accept (fetch_of_getElem found)
    rw [if_neg unfinished] at ends
    exact ⟨1, ends⟩
  | case12 depth pc pos rest slots memo outOfRange => exact absurd inRange outOfRange

theorem Ends.search_eq (isSealed : program.Sealed) {frames pc pos : Nat} {rest : List UInt8}
    {slots : Slots} {failed failed' : Std.HashSet (Nat × Nat)} {result : Option Slots}
    (ends : program.Ends frames pc pos rest slots failed result failed') (depth : Nat) (memo : Memo)
    (same : memo.failed = failed) (entered : depth + 1 ≤ memo.deepest) :
    ∃ memo', program.search depth pc pos rest slots memo = (result, memo') ∧
      memo'.failed = failed' ∧ memo'.deepest = max memo.deepest (depth + frames) := by
  induction ends generalizing depth memo with
  | accept fetch =>
    obtain ⟨inRange, found⟩ := Array.getElem?_eq_some_iff.mp fetch
    refine ⟨memo, ?_, same, (max_eq_left entered).symm⟩
    rw [search, dif_pos inRange]
    simp only [found]
    split <;> rfl
  | literal fetch drops _ ih =>
    obtain ⟨inRange, found⟩ := Array.getElem?_eq_some_iff.mp fetch
    rw [search, dif_pos inRange]
    simp only [found, drops]
    exact ih depth memo same entered
  | noLiteral fetch differs =>
    obtain ⟨inRange, found⟩ := Array.getElem?_eq_some_iff.mp fetch
    refine ⟨memo, ?_, same, (max_eq_left entered).symm⟩
    rw [search, dif_pos inRange]
    simp only [found, differs]
  | token fetch takes _ ih =>
    obtain ⟨inRange, found⟩ := Array.getElem?_eq_some_iff.mp fetch
    rw [search, dif_pos inRange]
    simp only [found, takes]
    exact ih depth memo same entered
  | noToken fetch noWord =>
    obtain ⟨inRange, found⟩ := Array.getElem?_eq_some_iff.mp fetch
    refine ⟨memo, ?_, same, (max_eq_left entered).symm⟩
    rw [search, dif_pos inRange]
    simp only [found, noWord]
  | known fetch member =>
    obtain ⟨inRange, found⟩ := Array.getElem?_eq_some_iff.mp fetch
    refine ⟨memo, ?_, same, (max_eq_left entered).symm⟩
    rw [search, dif_pos inRange]
    simp only [found, same, member, if_true]
  | @take frames pc pos target rest slots final failed failed' fetch unknown taken ih =>
    obtain ⟨inRange, found⟩ := Array.getElem?_eq_some_iff.mp fetch
    have forward := (isSealed.forward (.skip fetch)).1
    obtain ⟨memo₁, result₁, failed₁, deepest₁⟩ :=
      ih (depth + 1) ((memo.expand (pc, pos)).enter (depth + 1)) same (le_max_right _ _)
    have positive := taken.frames_pos
    refine ⟨memo₁, ?_, failed₁, ?_⟩
    · rw [search, dif_pos inRange]
      simp only [found, same, unknown, forward, if_true, result₁]
      rfl
    · simp only [Memo.enter, Memo.expand] at deepest₁
      omega
  | @skip frames frames' pc pos target rest slots final failed between failed' fetch unknown taken
      skipped ihTake ihSkip =>
    obtain ⟨inRange, found⟩ := Array.getElem?_eq_some_iff.mp fetch
    have forward := (isSealed.forward (.skip fetch)).1
    obtain ⟨memo₁, result₁, failed₁, deepest₁⟩ :=
      ihTake (depth + 1) ((memo.expand (pc, pos)).enter (depth + 1)) same (le_max_right _ _)
    obtain ⟨memo₂, result₂, failed₂, deepest₂⟩ :=
      ihSkip (depth + 1) (memo₁.enter (depth + 1)) failed₁ (le_max_right _ _)
    have positive := taken.frames_pos
    refine ⟨memo₂, ?_, failed₂, ?_⟩
    · rw [search, dif_pos inRange]
      simp only [found, same, unknown, forward, if_true, result₁, result₂]
      rfl
    · simp only [Memo.enter, Memo.expand] at deepest₁ deepest₂
      omega
  | @fail frames frames' pc pos target rest slots failed between failed' fetch unknown taken
      skipped ihTake ihSkip =>
    obtain ⟨inRange, found⟩ := Array.getElem?_eq_some_iff.mp fetch
    have forward := (isSealed.forward (.skip fetch)).1
    obtain ⟨memo₁, result₁, failed₁, deepest₁⟩ :=
      ihTake (depth + 1) ((memo.expand (pc, pos)).enter (depth + 1)) same (le_max_right _ _)
    obtain ⟨memo₂, result₂, failed₂, deepest₂⟩ :=
      ihSkip (depth + 1) (memo₁.enter (depth + 1)) failed₁ (le_max_right _ _)
    have positive := taken.frames_pos
    refine ⟨memo₂.fail (pc, pos), ?_, congrArg (·.insert (pc, pos)) failed₂, ?_⟩
    · rw [search, dif_pos inRange]
      simp only [found, same, unknown, forward, if_true, result₁, result₂]
      rfl
    · simp only [Memo.enter, Memo.expand, Memo.fail] at deepest₁ deepest₂ ⊢
      omega

theorem Ends.unique (isSealed : program.Sealed) {frames frames' pc pos : Nat} {rest : List UInt8}
    {slots : Slots} {failed failed₁ failed₂ : Std.HashSet (Nat × Nat)}
    {result result' : Option Slots}
    (one : program.Ends frames pc pos rest slots failed result failed₁)
    (other : program.Ends frames' pc pos rest slots failed result' failed₂) :
    frames = frames' ∧ result = result' ∧ failed₁ = failed₂ := by
  -- Both have the result that the search with checks has, if it knows the same failures.
  let memo : Memo := ⟨failed, [], [], 1, 1⟩
  obtain ⟨memo₁, search₁, rfl, deepest₁⟩ := one.search_eq isSealed 0 memo rfl le_rfl
  obtain ⟨memo₂, search₂, rfl, deepest₂⟩ := other.search_eq isSealed 0 memo rfl le_rfl
  obtain ⟨rfl, rfl⟩ := Prod.mk.inj (search₁.symm.trans search₂)
  have positive := one.frames_pos
  have positive' := other.frames_pos
  refine ⟨?_, rfl, rfl⟩
  simp only [memo] at deepest₁ deepest₂
  omega

theorem run_ends (isSealed : program.Sealed) (path : List UInt8) :
    program.Ends (program.run path).2.deepest 0 0 path (Array.replicate program.slots none) ∅
      (program.run path).1 (program.run path).2.failed := by
  obtain ⟨frames, ends⟩ : ∃ frames, program.Ends frames 0 0 path
      (Array.replicate program.slots none) ∅ (program.run path).1 (program.run path).2.failed :=
    search_ends isSealed 0 0 path _ (Memo.empty.enter 0) isSealed.nonempty
  obtain ⟨memo, searched, -, deepest⟩ :=
    ends.search_eq isSealed 0 (Memo.empty.enter 0) rfl le_rfl
  have run : program.run path = ((program.run path).1, memo) := searched
  have positive := ends.frames_pos
  have depth : (program.run path).2.deepest = frames := by
    rw [run, deepest]
    simp only [Memo.enter, Memo.empty]
    omega
  rw [depth]
  exact ends

/-- One pass over the segments writes the compiled program.  It accepts at its end only; its splits
are those of the optional elements, each with the first instruction behind its element for a target,
and they lie inside one another or apart; its tokens fill the slots in order.  Each move leads
forward, so from every instruction the search ends in one way on any bytes, with no more searches
inside one another than one and one for each split. -/
theorem compiled_search_ends (segments : List Segment) :
    let program := compile segments
    emitAll segments = program ∧
    (∀ pc : Nat, program.insts[pc]? = some .accept ↔ pc + 1 = program.insts.size) ∧
    (∀ start stop : Nat, program.insts[start]? = some (.split stop) ↔
      Segment.Optional 0 segments start stop) ∧
    (∀ start stop : Nat, program.insts[start]? = some (.split stop) →
      start < stop ∧ stop < program.insts.size) ∧
    (∀ start stop start' stop' : Nat, program.insts[start]? = some (.split stop) →
      program.insts[start']? = some (.split stop') → NestedOrApart start stop start' stop') ∧
    (program.insts.toList.filterMap Inst.slot? = List.range program.slots ∧
      program.slots = (tokenNames segments).length) ∧
    (∀ pc next, program.Moves pc next → pc < next ∧ next < program.insts.size) ∧
    (∀ pc pos rest slots failed, pc < program.insts.size → ∃ frames result failed',
      program.Ends frames pc pos rest slots failed result failed' ∧ frames ≤ program.splits + 1 ∧
      ∀ others other after, program.Ends others pc pos rest slots failed other after →
        others = frames ∧ other = result ∧ after = failed') ∧
    ∀ path, program.Ends (program.run path).2.deepest 0 0 path
        (Array.replicate program.slots none) ∅ (program.run path).1 (program.run path).2.failed ∧
      (program.run path).2.deepest ≤ program.splits + 1 := by
  intro program
  have isSealed : program.Sealed := sealed_compile segments
  have bound {frames pc pos rest slots failed result failed'}
      (ends : program.Ends frames pc pos rest slots failed result failed') :
      frames ≤ program.splits + 1 := by
    have ahead : program.splitsFrom pc ≤ program.splits :=
      (splitsFrom_le (Nat.zero_le pc)).trans_eq splitsFrom_zero
    exact (ends.frames_le isSealed).trans (Nat.succ_le_succ ahead)
  refine ⟨emitAll_eq_compile segments, fun pc => compile_accept_iff,
    fun start stop => compile_split_iff, fun start stop found => isSealed.fits found,
    fun start stop start' stop' one other => ?_,
    ⟨filterMap_slot?_compile, slots_compile segments⟩, fun pc next moves => isSealed.forward moves,
    fun pc pos rest slots failed inRange => ?_, fun path => ?_⟩
  · exact (compile_split_iff.mp one).nestedOrApart (compile_split_iff.mp other)
  · let memo : Memo := ⟨failed, [], [], 1, 1⟩
    obtain ⟨frames, ends⟩ := search_ends isSealed 0 pos rest slots memo inRange
    exact ⟨frames, _, _, ends, bound ends, fun _ _ _ other => other.unique isSealed ends⟩
  · have ends := run_ends isSealed path
    exact ⟨ends, bound ends⟩

theorem compiled_search_ends_nested :
    let segments : List Segment := [.piece (.literal "user/"),
      .group [.literal "p/", .token "page" true], .piece (.token "id" true)]
    let program := compile segments
    program.insts = #[.literal (utf8 "user/"), .split 5, .literal (utf8 "p/"), .split 5, .token 0,
      .split 7, .token 1, .accept] ∧
    Segment.Optional 0 segments 3 5 ∧ NestedOrApart 1 5 3 5 ∧ NestedOrApart 3 5 5 7 ∧
    (∃ frames result failed, program.Ends frames 3 2 (utf8 "7/") #[none, none] ∅ result failed ∧
      frames ≤ 4) ∧
    (program.run (utf8 "user/p/7/x!")).2.deepest = 4 ∧
      (program.run (utf8 "user/p/7/x!")).2.deepest ≤ program.splits + 1 := by
  intro segments program
  obtain ⟨-, -, splits, -, ranges, -, -, ends, runs⟩ := compiled_search_ends segments
  obtain ⟨frames, result, failed, done, bound, -⟩ :=
    ends 3 2 (utf8 "7/") #[none, none] ∅ (by decide)
  exact ⟨by decide, (splits 3 5).mp (by decide), ranges 1 5 3 5 (by decide) (by decide),
    ranges 3 5 5 7 (by decide) (by decide), ⟨frames, result, failed, done, bound⟩, by cbv,
    (runs (utf8 "user/p/7/x!")).2⟩

end Program

end PathRouting.Pattern
