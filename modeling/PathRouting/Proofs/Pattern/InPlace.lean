import PathRouting.Pattern.Search

/-!
# Searching in place

A search with one array of slots that is written as the search goes on.  A run of word bytes is
captured before it is known what follows it, so a choice that fails leaves captures behind; before
the other choice of a split the slots are set back to what they were.  That finds the same match,
and remembers the same splits, as the search that hands each choice its own slots.
-/

namespace PathRouting.Pattern

open PathRouting.Text

/-- What a search in place changes. -/
structure Workspace where
  slots : Slots
  memo : Memo

namespace Workspace

def writeSlots (slots : Slots) (w : Workspace) : Workspace :=
  { w with slots := slots }

def capture (slot : Nat) (span : Span) (w : Workspace) : Workspace :=
  { w with slots := w.slots.setIfInBounds slot (some span) }

def note (f : Memo → Memo) (w : Workspace) : Workspace :=
  { w with memo := f w.memo }

end Workspace

namespace Program

/-- Runs the program from instruction `pc` on the bytes `rest`, which start at byte `pos` of the
path.  Whether it matches is the result; what it captured stands in the slots then. -/
def searchInPlace (program : Program) (depth pc pos : Nat) (rest : List UInt8) :
    StateM Workspace Bool := do
  if h : pc < program.insts.size then
    match program.insts[pc] with
    | .literal bytes =>
        match dropText? bytes rest with
        | some rest => program.searchInPlace depth (pc + 1) (pos + bytes.length) rest
        | none => return false
    | .token slot =>
        let width := (rest.takeWhile isWordByte).length
        if width = 0 then return false
        modify (·.capture slot ⟨pos, pos + width⟩)
        match rest.dropWhile isWordByte with
        | [] => program.searchInPlace depth (pc + 1) (pos + width) []
        | b :: rest =>
            if b = slash then program.searchInPlace depth (pc + 1) (pos + width + 1) rest
            else return false
    | .split target =>
        let start ← get
        if start.memo.failed.contains (pc, pos) then return false
        if pc < target then
          modify (·.note fun memo => (memo.expand (pc, pos)).enter (depth + 1))
          if ← program.searchInPlace (depth + 1) (pc + 1) pos rest then return true
          modify fun w => (w.writeSlots start.slots).note (·.enter (depth + 1))
          if ← program.searchInPlace (depth + 1) target pos rest then return true
          modify (·.note (·.fail (pc, pos)))
          return false
        else return false
    | .accept => return rest.isEmpty
  else return false
termination_by program.insts.size - pc

/-! ## One instruction -/

section

theorem id_bind {α β : Type} (a : α) (next : α → Id β) : bind (m := Id) a next = next a := rfl

variable {program : Program} {depth pc pos slot target width : Nat} {slashed : Bool}
  {rest left : List UInt8} {slots : Slots} {memo : Memo}

theorem run_token_of_some (inRange : pc < program.insts.size)
    (found : program.insts[pc] = .token slot)
    (takes : takeWord? rest = some (width, slashed, left)) :
    (program.searchInPlace depth pc pos rest).run ⟨slots, memo⟩ =
      (program.searchInPlace depth (pc + 1) (pos + width + slashed.toNat) left).run
        ⟨slots.setIfInBounds slot (some ⟨pos, pos + width⟩), memo⟩ := by
  rw [searchInPlace, dif_pos inRange]
  simp only [found]
  unfold takeWord? at takes
  split at takes
  · cases takes
  · rename_i n taken behind
    obtain ⟨rfl, rfl, rfl⟩ : n + 1 = width ∧ false = slashed ∧ [] = left := by simpa using takes
    simp only [taken, behind, Nat.add_one_ne_zero, if_false]
    rfl
  · rename_i n b after taken behind
    split at takes
    · rename_i isSlash
      obtain ⟨rfl, rfl, rfl⟩ : n + 1 = width ∧ true = slashed ∧ after = left := by
        simpa using takes
      simp only [taken, behind, Nat.add_one_ne_zero, if_false, isSlash, if_true]
      rfl
    · cases takes

theorem run_token_of_none (inRange : pc < program.insts.size)
    (found : program.insts[pc] = .token slot) (takes : takeWord? rest = none) :
    ∃ leftover, (program.searchInPlace depth pc pos rest).run ⟨slots, memo⟩ =
      (false, ⟨leftover, memo⟩) := by
  rw [searchInPlace, dif_pos inRange]
  simp only [found]
  unfold takeWord? at takes
  split at takes
  · rename_i taken
    simp only [taken, if_true]
    exact ⟨slots, rfl⟩
  · cases takes
  · rename_i n b after taken behind
    split at takes
    · cases takes
    · rename_i other
      simp only [taken, behind, Nat.add_one_ne_zero, if_false, other]
      exact ⟨_, rfl⟩

/-- The second choice of a split starts from the slots that the first one started from. -/
theorem run_split (inRange : pc < program.insts.size) (found : program.insts[pc] = .split target)
    (fresh : ¬ memo.failed.contains (pc, pos) = true) (forward : pc < target) :
    (program.searchInPlace depth pc pos rest).run ⟨slots, memo⟩ =
      match (program.searchInPlace (depth + 1) (pc + 1) pos rest).run
          ⟨slots, (memo.expand (pc, pos)).enter (depth + 1)⟩ with
      | (true, w) => (true, w)
      | (false, w) =>
          match (program.searchInPlace (depth + 1) target pos rest).run
              ⟨slots, w.memo.enter (depth + 1)⟩ with
          | (true, w) => (true, w)
          | (false, w) => (false, w.note (·.fail (pc, pos))) := by
  rw [searchInPlace, dif_pos inRange]
  simp only [found, StateT.run_bind, StateT.run_get, pure_bind, fresh, forward, if_true,
    Bool.false_eq_true, if_false, StateT.run_modify, Workspace.note, Workspace.writeSlots]
  generalize StateT.run (program.searchInPlace (depth + 1) (pc + 1) pos rest) _ = taken
  obtain ⟨_ | _, w⟩ := taken
  · simp only [id_bind, Bool.false_eq_true, if_false, StateT.run_bind, StateT.run_modify]
    generalize StateT.run (program.searchInPlace (depth + 1) target pos rest) _ = skipped
    obtain ⟨_ | _, w⟩ := skipped <;> rfl
  · rfl

end

/-! ## The whole search -/

/-- A search in place ends as the other one does.  If there is no match, something is left over in
the slots. -/
inductive EndsAlike : Bool × Workspace → Option Slots × Memo → Prop where
  | found (slots : Slots) (memo : Memo) : EndsAlike (true, ⟨slots, memo⟩) (some slots, memo)
  | failed (leftover : Slots) (memo : Memo) : EndsAlike (false, ⟨leftover, memo⟩) (none, memo)

theorem EndsAlike.eq_of_some {outcome : Bool × Workspace} {slots : Slots} {memo : Memo}
    (ends : EndsAlike outcome (some slots, memo)) : outcome = (true, ⟨slots, memo⟩) := by
  cases ends
  rfl

theorem EndsAlike.eq_of_none {outcome : Bool × Workspace} {memo : Memo}
    (ends : EndsAlike outcome (none, memo)) : ∃ leftover, outcome = (false, ⟨leftover, memo⟩) := by
  cases ends with
  | failed leftover => exact ⟨leftover, rfl⟩

theorem searchInPlace_endsAlike (program : Program) (depth pc pos : Nat) (rest : List UInt8)
    (slots : Slots) (memo : Memo) :
    EndsAlike ((program.searchInPlace depth pc pos rest).run ⟨slots, memo⟩)
      (program.search depth pc pos rest slots memo) := by
  fun_induction program.search depth pc pos rest slots memo with
  | case1 depth pc pos rest slots memo inRange bytes found left drops ih =>
    rw [searchInPlace, dif_pos inRange]
    simp only [found, drops]
    exact ih
  | case2 depth pc pos rest slots memo inRange bytes found drops =>
    rw [searchInPlace, dif_pos inRange]
    simp only [found, drops]
    exact .failed slots memo
  | case3 depth pc pos rest slots memo inRange slot found width slashed left takes ih =>
    rw [run_token_of_some inRange found takes]
    exact ih
  | case4 depth pc pos rest slots memo inRange slot found takes =>
    obtain ⟨leftover, ends⟩ := run_token_of_none inRange found takes
    rw [ends]
    exact .failed leftover memo
  | case5 depth pc pos rest slots memo inRange target found known =>
    rw [searchInPlace, dif_pos inRange]
    simp only [found, StateT.run_bind, StateT.run_get, pure_bind, known, if_true]
    exact .failed slots memo
  | case6 depth pc pos rest slots memo inRange target found fresh forward slots₁ memo₁ result₁
      ihTake =>
    have taken := (result₁ ▸ ihTake).eq_of_some
    rw [run_split inRange found fresh forward, taken]
    exact .found slots₁ memo₁
  | case7 depth pc pos rest slots memo inRange target found fresh forward memo₁ result₁ slots₂
      memo₂ result₂ ihTake ihSkip =>
    obtain ⟨leftover, taken⟩ := (result₁ ▸ ihTake).eq_of_none
    have skipped := (result₂ ▸ ihSkip).eq_of_some
    simp only [run_split inRange found fresh forward, taken, skipped]
    exact .found slots₂ memo₂
  | case8 depth pc pos rest slots memo inRange target found fresh forward memo₁ result₁ memo₂
      result₂ ihTake ihSkip =>
    obtain ⟨leftover, taken⟩ := (result₁ ▸ ihTake).eq_of_none
    obtain ⟨leftover', skipped⟩ := (result₂ ▸ ihSkip).eq_of_none
    simp only [run_split inRange found fresh forward, taken, skipped]
    exact .failed leftover' (memo₂.fail (pc, pos))
  | case9 depth pc pos rest slots memo inRange target found fresh backward =>
    rw [searchInPlace, dif_pos inRange]
    simp only [found, StateT.run_bind, StateT.run_get, pure_bind, fresh, backward, if_false]
    exact .failed slots memo
  | case10 depth pc pos rest slots memo inRange found finished =>
    rw [searchInPlace, dif_pos inRange]
    simp only [found, finished]
    exact .found slots memo
  | case11 depth pc pos rest slots memo inRange found finished =>
    rw [searchInPlace, dif_pos inRange]
    simp only [found, finished]
    exact .failed slots memo
  | case12 depth pc pos rest slots memo inRange =>
    rw [searchInPlace, dif_neg inRange]
    exact .failed slots memo

/-- The whole search in place on a path, with what it remembered. -/
def runInPlace (program : Program) (path : List UInt8) : Option Slots × Memo :=
  let (found, w) := (program.searchInPlace 0 0 0 path).run
    ⟨Array.replicate program.slots none, Memo.empty.enter 0⟩
  (if found then some w.slots else none, w.memo)

theorem runInPlace_eq_run (program : Program) (path : List UInt8) :
    program.runInPlace path = program.run path := by
  have ends := program.searchInPlace_endsAlike 0 0 0 path (Array.replicate program.slots none)
    (Memo.empty.enter 0)
  rw [runInPlace, run]
  generalize StateT.run (program.searchInPlace 0 0 0 path) _ = outcome at ends ⊢
  generalize program.search 0 0 0 path _ _ = result at ends ⊢
  cases ends <;> rfl

end Program

end PathRouting.Pattern
