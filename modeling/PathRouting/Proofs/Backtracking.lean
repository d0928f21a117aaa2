import Mathlib
import PathRouting.Proofs.Pattern.Runs

/-!
# How much a search does

The splits that are under way at any moment of a search lie behind the place it has come to, and it
never goes back while they last.  So a split that it meets has failed for good, and then it is left
alone, or it is new.  Every split is tried once at most at each position of the path, and that
bounds the work of the search, however many optional parts a pattern has.
-/

namespace PathRouting.Pattern

open PathRouting.Text

def Inst.isSplit : Inst → Bool
  | split _ => true
  | _ => false

/-- How many splits the program has. -/
def Program.splits (program : Program) : Nat :=
  program.insts.toList.countP Inst.isSplit

/-! ## Records of a search -/

namespace Memo

/-- The splits that are under way: they were tried and have not failed so far. -/
def Pending (memo : Memo) (pending : List (Nat × Nat)) : Prop :=
  ∀ state, state ∈ pending ↔ state ∈ memo.expanded ∧ state ∉ memo.failures

/-- No split of the program was tried or has failed twice at one position of the path, and exactly
the splits that have failed are remembered. -/
structure Tidy (memo : Memo) (program : Program) (path : List UInt8) : Prop where
  expanded : memo.expanded.Nodup
  failures : memo.failures.Nodup
  failed (state : Nat × Nat) : state ∈ memo.failed ↔ state ∈ memo.failures
  isSplit {pc pos : Nat} : (pc, pos) ∈ memo.expanded →
    (∃ target, program.insts[pc]? = some (.split target)) ∧ pos ≤ path.length

variable {memo : Memo} {program : Program} {path : List UInt8} {state : Nat × Nat}
  {pending : List (Nat × Nat)}

theorem tidy_empty (program : Program) (path : List UInt8) : empty.Tidy program path where
  expanded := .nil
  failures := .nil
  failed state := by simp [empty]
  isSplit := nofun

theorem pending_empty : empty.Pending [] := by
  simp [Pending, empty]

theorem Tidy.enter (tidy : memo.Tidy program path) (depth : Nat) :
    (memo.enter depth).Tidy program path :=
  ⟨tidy.expanded, tidy.failures, tidy.failed, tidy.isSplit⟩

theorem Pending.enter (under : memo.Pending pending) (depth : Nat) :
    (memo.enter depth).Pending pending :=
  under

theorem Tidy.expand (tidy : memo.Tidy program path) {pc pos target : Nat}
    (new : (pc, pos) ∉ memo.expanded) (fetch : program.insts[pc]? = some (.split target))
    (inside : pos ≤ path.length) : (memo.expand (pc, pos)).Tidy program path where
  expanded := List.nodup_cons.mpr ⟨new, tidy.expanded⟩
  failures := tidy.failures
  failed := tidy.failed
  isSplit member := by
    rcases List.mem_cons.mp member with same | earlier
    · obtain ⟨rfl, rfl⟩ := Prod.mk.inj same
      exact ⟨⟨target, fetch⟩, inside⟩
    · exact tidy.isSplit earlier

theorem Pending.expand (under : memo.Pending pending) (unfailed : state ∉ memo.failures) :
    (memo.expand state).Pending (state :: pending) := by
  intro other
  rw [List.mem_cons, under other, Memo.expand, List.mem_cons]
  constructor
  · rintro (rfl | ⟨tried, unfailed'⟩)
    · exact ⟨.inl rfl, unfailed⟩
    · exact ⟨.inr tried, unfailed'⟩
  · rintro ⟨rfl | tried, unfailed'⟩
    · exact .inl rfl
    · exact .inr ⟨tried, unfailed'⟩

theorem Tidy.fail (tidy : memo.Tidy program path) (unfailed : state ∉ memo.failures) :
    (memo.fail state).Tidy program path where
  expanded := tidy.expanded
  failures := List.nodup_cons.mpr ⟨unfailed, tidy.failures⟩
  failed other := by rw [mem_failed_fail, tidy.failed, Memo.fail, List.mem_cons]
  isSplit := tidy.isSplit

theorem Pending.fail (under : memo.Pending (state :: pending)) (others : state ∉ pending) :
    (memo.fail state).Pending pending := by
  intro other
  have before := under other
  rw [List.mem_cons] at before
  rw [Memo.fail, List.mem_cons, not_or]
  constructor
  · intro member
    obtain ⟨tried, unfailed⟩ := before.mp (.inr member)
    refine ⟨tried, ?_, unfailed⟩
    rintro rfl
    exact others member
  · rintro ⟨tried, differ, unfailed⟩
    exact (before.mpr ⟨tried, unfailed⟩).resolve_left differ

/-- A split that has not failed and is not under way either is new, and it is under way as soon as
it is tried. -/
theorem Tidy.start {pc pos target : Nat} (tidy : memo.Tidy program path) (depth : Nat)
    (under : memo.Pending pending) (behind : ∀ state ∈ pending, state.1 < pc)
    (unfailed : ¬ memo.failed.contains (pc, pos) = true)
    (fetch : program.insts[pc]? = some (.split target)) (inside : pos ≤ path.length) :
    ((memo.expand (pc, pos)).enter depth).Tidy program path ∧
      ((memo.expand (pc, pos)).enter depth).Pending ((pc, pos) :: pending) ∧
      ∀ state ∈ (pc, pos) :: pending, state.1 < pc + 1 := by
  have unfailed : (pc, pos) ∉ memo.failures := by
    rwa [← tidy.failed, Std.HashSet.mem_iff_contains]
  -- Had it been tried and not failed, it would be under way, and that lies behind.
  have untried : (pc, pos) ∉ memo.expanded := by
    intro tried
    exact Nat.lt_irrefl pc (behind _ ((under _).mpr ⟨tried, unfailed⟩))
  refine ⟨(tidy.expand untried fetch inside).enter depth, (under.expand unfailed).enter depth, ?_⟩
  exact List.forall_mem_cons.mpr
    ⟨Nat.lt_succ_self pc, fun state member => Nat.lt_succ_of_lt (behind state member)⟩

theorem Tidy.length_expanded (tidy : memo.Tidy program path) :
    memo.expanded.length ≤ program.splits * (path.length + 1) := by
  let places := program.insts.toList.findIdxs Inst.isSplit ×ˢ List.range (path.length + 1)
  have inside : memo.expanded ⊆ places := by
    rintro ⟨pc, pos⟩ member
    obtain ⟨⟨target, fetch⟩, here⟩ := tidy.isSplit member
    obtain ⟨inRange, found⟩ := Array.getElem?_eq_some_iff.mp fetch
    refine List.mem_product.mpr ⟨?_, List.mem_range.mpr (Nat.lt_succ_of_le here)⟩
    refine List.mem_findIdxs_iff_exists_getElem_pos.mpr ⟨by simpa using inRange, ?_⟩
    rw [Array.getElem_toList, found]
    rfl
  calc memo.expanded.length
    _ ≤ places.length := tidy.expanded.length_le_of_subset inside
    _ = program.splits * (path.length + 1) := by
      rw [List.length_product, List.length_findIdxs, List.length_range, Program.splits]

end Memo

/-! ## One search -/

theorem length_of_dropText? {text bytes rest : List UInt8}
    (drops : dropText? text bytes = some rest) : bytes.length = text.length + rest.length := by
  obtain ⟨taken, rfl, same⟩ := dropText?_eq_some_iff.mp drops
  have length : taken.length = text.length := by simpa using congrArg List.length same
  rw [List.length_append, length]

namespace Program

variable {program : Program} {path rest : List UInt8} {pc pos : Nat} {slots : Slots} {memo : Memo}
  {pending : List (Nat × Nat)}

/-- For every split that is tried the search is entered twice at most. -/
theorem search_entered (depth pc pos : Nat) (rest : List UInt8) (slots : Slots) (memo : Memo) :
    (program.search depth pc pos rest slots memo).2.entered + 2 * memo.expanded.length ≤
      memo.entered + 2 * (program.search depth pc pos rest slots memo).2.expanded.length := by
  fun_induction program.search depth pc pos rest slots memo with
  | case1 _ _ _ _ _ _ _ _ _ _ _ ih | case3 _ _ _ _ _ _ _ _ _ _ _ _ _ ih => exact ih
  | case6 _ _ _ _ _ _ _ _ _ _ _ _ _ result ih =>
    rw [result] at ih
    simp only [Memo.enter, Memo.expand, List.length_cons] at ih
    dsimp only
    omega
  | case7 _ _ _ _ _ _ _ _ _ _ _ _ result₁ _ _ result₂ ih₁ ih₂ =>
    rw [result₁] at ih₁
    rw [result₂] at ih₂
    simp only [Memo.enter, Memo.expand, List.length_cons] at ih₁ ih₂
    dsimp only
    omega
  | case8 _ _ _ _ _ _ _ _ _ _ _ _ result₁ _ result₂ ih₁ ih₂ =>
    rw [result₁] at ih₁
    rw [result₂] at ih₂
    simp only [Memo.enter, Memo.expand, List.length_cons] at ih₁ ih₂
    simp only [Memo.fail]
    omega
  | case2 | case4 | case5 | case9 | case10 | case11 | case12 => exact Nat.le_refl _

/-- The splits that a search has under way lie behind it, so it meets none of them again: a split
that it comes to has failed before, and then it is not tried, or it is new. -/
theorem search_tidy (depth : Nat) (tidy : memo.Tidy program path) (under : memo.Pending pending)
    (behind : ∀ state ∈ pending, state.1 < pc) (here : rest = path.drop pos)
    (inside : pos ≤ path.length) :
    (program.search depth pc pos rest slots memo).2.Tidy program path ∧
      ((program.search depth pc pos rest slots memo).1 = none →
        (program.search depth pc pos rest slots memo).2.Pending pending) := by
  have left (pos : Nat) : (path.drop pos).length = path.length - pos := List.length_drop
  fun_induction program.search depth pc pos rest slots memo generalizing pending with
  | case1 depth pc pos rest slots memo inRange bytes found left' drops ih =>
    have length := length_of_dropText? drops
    rw [here, left] at length
    refine ih tidy under (fun state member => Nat.lt_succ_of_lt (behind state member)) ?_ (by omega)
    rw [← List.drop_drop, ← here, drop_of_dropText? drops]
  | case3 depth pc pos rest slots memo inRange slot found width slashed left' takes ih =>
    obtain ⟨_, _, _, length⟩ := takesWord_of_takeWord? takes
    rw [here, left] at length
    refine ih tidy under (fun state member => Nat.lt_succ_of_lt (behind state member)) ?_ (by omega)
    rw [Nat.add_assoc, ← List.drop_drop, ← here, drop_of_takeWord? takes]
  | case6 depth pc pos rest slots memo inRange target found unfailed forward final memo' result
      ih =>
    obtain ⟨tidy, under, behind⟩ :=
      tidy.start (depth + 1) under behind unfailed (fetch_of_getElem found) inside
    have taken := ih tidy under behind here inside
    rw [result] at taken
    exact ⟨taken.1, by simp⟩
  | case7 depth pc pos rest slots memo inRange target found unfailed forward memo₁ result₁ final
      memo₂ result₂ ihTake ihSkip =>
    obtain ⟨tidy, under, behind⟩ :=
      tidy.start (depth + 1) under behind unfailed (fetch_of_getElem found) inside
    have taken := ihTake tidy under behind here inside
    rw [result₁] at taken
    have ahead : ∀ state ∈ (pc, pos) :: pending, state.1 < target :=
      fun state member => Nat.lt_of_lt_of_le (behind state member) forward
    have skipped := ihSkip (taken.1.enter (depth + 1))
      ((taken.2 rfl).enter (depth + 1)) ahead here inside
    rw [result₂] at skipped
    exact ⟨skipped.1, by simp⟩
  | case8 depth pc pos rest slots memo inRange target found unfailed forward memo₁ result₁ memo₂
      result₂ ihTake ihSkip =>
    have others : (pc, pos) ∉ pending := fun member => Nat.lt_irrefl pc (behind _ member)
    obtain ⟨tidy, under, behind⟩ :=
      tidy.start (depth + 1) under behind unfailed (fetch_of_getElem found) inside
    have taken := ihTake tidy under behind here inside
    rw [result₁] at taken
    have ahead : ∀ state ∈ (pc, pos) :: pending, state.1 < target :=
      fun state member => Nat.lt_of_lt_of_le (behind state member) forward
    have skipped := ihSkip (taken.1.enter (depth + 1))
      ((taken.2 rfl).enter (depth + 1)) ahead here inside
    rw [result₂] at skipped
    -- The split was under way until now, so it is remembered for the first time.
    have pending := skipped.2 rfl
    have first := ((pending (pc, pos)).mp List.mem_cons_self).2
    exact ⟨skipped.1.fail first, fun _ => pending.fail others⟩
  | case2 | case4 | case5 | case9 | case10 | case11 | case12 => exact ⟨tidy, fun _ => under⟩

/-- Whatever a search remembers has failed for good, also if the search succeeds in the end. -/
theorem search_sound (depth : Nat) (sound : memo.Sound program path) (here : rest = path.drop pos) :
    (program.search depth pc pos rest slots memo).2.Sound program path := by
  fun_induction program.search depth pc pos rest slots memo with
  | case1 depth pc pos rest slots memo inRange bytes found left drops ih =>
    apply ih sound
    rw [← List.drop_drop, ← here, drop_of_dropText? drops]
  | case3 depth pc pos rest slots memo inRange slot found width slashed left takes ih =>
    apply ih sound
    rw [Nat.add_assoc, ← List.drop_drop, ← here, drop_of_takeWord? takes]
  | case6 depth pc pos rest slots memo inRange target found _ forward final memo' result ih =>
    have taken := ih ((sound.expand _).enter (depth + 1)) here
    rwa [result] at taken
  | case7 depth pc pos rest slots memo inRange target found _ forward memo₁ result₁ final memo₂
      result₂ ihTake ihSkip =>
    have taken := ihTake ((sound.expand _).enter (depth + 1)) here
    rw [result₁] at taken
    have skipped := ihSkip (taken.enter (depth + 1)) here
    rwa [result₂] at skipped
  | case8 depth pc pos rest slots memo inRange target found _ forward memo₁ result₁ memo₂ result₂
      ihTake ihSkip =>
    -- Both branches have failed, so this is the one case in which something new is remembered.
    have taken : program.Decides path (pc + 1) pos rest slots _ :=
      search_decides (depth + 1) ((sound.expand (pc, pos)).enter (depth + 1)) here
    rw [result₁] at taken
    have skipped : program.Decides path target pos rest slots _ :=
      search_decides (depth + 1) (taken.1.enter (depth + 1)) here
    rw [result₂] at skipped
    have fails := not_runs_split (fetch_of_getElem found) taken.2 skipped.2
    exact skipped.1.fail (here ▸ fails)
  | case2 | case4 | case5 | case9 | case10 | case11 | case12 => exact sound

/-- A program that is run on a path tries no split twice at one position and remembers no failure
twice; from what it remembers no search succeeds, whatever was captured before; and it is entered
once at the start and twice at most for every split and every position of the path. -/
theorem run_tries_each_split_once (segments : List Segment) (path : String) :
    let program := compile segments
    let bytes := utf8 path
    let memo := (program.run bytes).2
    memo.Tidy program bytes ∧
    (∀ pc pos, (pc, pos) ∈ memo.failed →
      (∀ choices slots final, ¬ program.Runs choices pc pos (bytes.drop pos) slots final) ∧
      ∀ depth slots, (program.search depth pc pos (bytes.drop pos) slots .empty).1 = none) ∧
    memo.entered ≤ 1 + 2 * program.splits * (bytes.length + 1) := by
  intro program bytes memo
  have start := (Memo.tidy_empty program bytes).enter 0
  have tidy : memo.Tidy program bytes :=
    (search_tidy 0 start (Memo.pending_empty.enter 0) (by simp) rfl (Nat.zero_le _)).1
  have sound : memo.Sound program bytes :=
    search_sound 0 ((Memo.sound_empty program bytes).enter 0) rfl
  refine ⟨tidy, fun pc pos failed => ⟨sound pc pos failed, fun depth slots => ?_⟩, ?_⟩
  · have decides : program.Decides bytes pc pos (bytes.drop pos) slots _ :=
      search_decides depth (Memo.sound_empty program bytes) rfl
    generalize program.search depth pc pos (bytes.drop pos) slots .empty = result at decides ⊢
    match result, decides with
    | (none, _), _ => rfl
    | (some final, _), ⟨choices, first⟩ => exact absurd first.runs (sound pc pos failed _ _ _)
  · have counted : memo.entered ≤ 1 + 2 * memo.expanded.length :=
      search_entered 0 0 0 bytes _ (Memo.empty.enter 0)
    have tried := tidy.length_expanded
    calc memo.entered
      _ ≤ 1 + 2 * memo.expanded.length := counted
      _ ≤ 1 + 2 * (program.splits * (bytes.length + 1)) := by omega
      _ = 1 + 2 * program.splits * (bytes.length + 1) := by rw [Nat.mul_assoc]

theorem run_tries_each_split_once_groups :
    let program := compile [.group [.literal "a"], .group [.literal "a"], .group [.literal "b"],
      .piece (.literal "x")]
    let memo := (program.run (utf8 "a")).2
    memo.failures = [(0, 0), (2, 0), (4, 0), (2, 1), (4, 1)] ∧ memo.Tidy program (utf8 "a") ∧
      (∀ choices slots final, ¬ program.Runs choices 4 1 [] slots final) ∧
      memo.entered ≤ 1 + 2 * 3 * 2 := by
  intro program memo
  obtain ⟨tidy, fails, bound⟩ := run_tries_each_split_once [.group [.literal "a"],
    .group [.literal "a"], .group [.literal "b"], .piece (.literal "x")] "a"
  have failures : (program.run (utf8 "a")).2.failures =
      [(0, 0), (2, 0), (4, 0), (2, 1), (4, 1)] := by cbv
  have failed : (4, 1) ∈ memo.failed := by
    rw [tidy.failed, failures]
    decide
  exact ⟨failures, tidy, (fails 4 1 failed).1, bound⟩

end Program

end PathRouting.Pattern
