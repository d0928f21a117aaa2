import PathRouting.Pattern.Search
import PathRouting.Proofs.Pattern.Reads

/-!
# Runs of a matching program

What a program does when its splits are decided by a list of choices, with no memory of earlier
failures.  A run either fits the rest of the path or it does not, whatever was captured before it;
so the failures that the search remembers are failures for good, and the search ends with the run
whose choices are preferred to those of every other run, or with none if there is no run.
-/

namespace PathRouting.Pattern

open PathRouting.Text

/-! ## Texts and words at the front of some bytes -/

theorem drop_of_dropText? {text bytes rest : List UInt8}
    (drops : dropText? text bytes = some rest) : bytes.drop text.length = rest := by
  obtain ⟨taken, rfl, same⟩ := dropText?_eq_some_iff.mp drops
  have length : taken.length = text.length := by simpa using congrArg List.length same
  rw [← length, List.drop_left]

section

variable {word : String} {path rest : List UInt8} {width : Nat} {slashed : Bool}

/-- `takeWord?` takes off exactly a word, and answers with the number of its bytes and whether a
slash ended it. -/
theorem takesWord_of_takeWord? (takes : takeWord? path = some (width, slashed, rest)) :
    ∃ word, TakesWord word path rest ∧ width = (utf8 word).length ∧
      path.length = width + slashed.toNat + rest.length := by
  have split := List.takeWhile_append_dropWhile (p := isWordByte) (l := path)
  have bytes : ∀ b ∈ path.takeWhile isWordByte, isWordByte b = true :=
    fun b member => List.mem_takeWhile_imp member
  rw [takeWord?] at takes
  generalize path.takeWhile isWordByte = run at takes split bytes
  generalize path.dropWhile isWordByte = after at takes split
  have isWord (nonempty : run ≠ []) : IsWord (asciiText run) := isWord_asciiText nonempty bytes
  have spelled : utf8 (asciiText run) = run := utf8_asciiText bytes
  split at takes
  case h_1 => simp at takes
  case h_2 n length =>
    simp only [Option.some.injEq, Prod.mk.injEq] at takes
    obtain ⟨rfl, rfl, rfl⟩ := takes
    have final := TakesWord.final (isWord (List.ne_nil_of_length_eq_add_one length))
    rw [spelled] at final
    refine ⟨asciiText run, by simpa [← split] using final, by rw [spelled, length], ?_⟩
    simp [← split, length]
  case h_3 n b after length =>
    split at takes
    case isFalse => simp at takes
    case isTrue isSlash =>
      simp only [Option.some.injEq, Prod.mk.injEq] at takes
      obtain ⟨rfl, rfl, rfl⟩ := takes
      have slashed := TakesWord.slashed (isWord (List.ne_nil_of_length_eq_add_one length)) after
      rw [spelled, ← isSlash, split] at slashed
      refine ⟨asciiText run, slashed, by rw [spelled, length], ?_⟩
      simp [← split, length]
      omega

theorem takeWord?_of_takesWord (takes : TakesWord word path rest) :
    ∃ slashed, takeWord? path = some ((utf8 word).length, slashed, rest) := by
  obtain ⟨n, length⟩ := takes.isWord.exists_length_utf8
  rcases takes.dropWhile_eq with after | ⟨after, rfl⟩
  · exact ⟨true, by simp [takeWord?, takes.takeWhile_eq, after, length]⟩
  · exact ⟨false, by simp [takeWord?, takes.takeWhile_eq, after, length]⟩

theorem drop_of_takeWord? (takes : takeWord? path = some (width, slashed, rest)) :
    path.drop (width + slashed.toNat) = rest := by
  obtain ⟨word, taken, rfl, length⟩ := takesWord_of_takeWord? takes
  cases taken with
  | slashed _ _ =>
    simp only [List.length_append, List.length_cons] at length
    rw [List.append_cons, List.drop_append_of_le_length (by simp; omega),
      List.drop_of_length_le (by simp; omega), List.nil_append]
  | final _ => simp

end

/-! ## Runs -/

/-- `program.Runs choices pc pos rest slots final`: started at instruction `pc` on the bytes `rest`,
which start at byte `pos` of the path, and with these choices at its splits, the program succeeds
and turns the captured `slots` into `final`. -/
inductive Program.Runs (program : Program) :
    List Choice → Nat → Nat → List UInt8 → Slots → Slots → Prop where
  | accept {pc pos slots} (fetch : program.insts[pc]? = some .accept) :
      program.Runs [] pc pos [] slots slots
  | literal {choices pc pos bytes rest left slots final}
      (fetch : program.insts[pc]? = some (.literal bytes))
      (drops : dropText? bytes rest = some left)
      (next : program.Runs choices (pc + 1) (pos + bytes.length) left slots final) :
      program.Runs choices pc pos rest slots final
  | token {choices pc pos slot width slashed rest left slots final}
      (fetch : program.insts[pc]? = some (.token slot))
      (takes : takeWord? rest = some (width, slashed, left))
      (next : program.Runs choices (pc + 1) (pos + width + slashed.toNat) left
        (slots.setIfInBounds slot (some ⟨pos, pos + width⟩)) final) :
      program.Runs choices pc pos rest slots final
  | take {choices pc pos target rest slots final}
      (fetch : program.insts[pc]? = some (.split target)) (forward : pc < target)
      (next : program.Runs choices (pc + 1) pos rest slots final) :
      program.Runs (.take :: choices) pc pos rest slots final
  | skip {choices pc pos target rest slots final}
      (fetch : program.insts[pc]? = some (.split target)) (forward : pc < target)
      (next : program.Runs choices target pos rest slots final) :
      program.Runs (.skip :: choices) pc pos rest slots final

namespace Program

variable {program : Program} {choices : List Choice} {pc pos : Nat} {path rest : List UInt8}
  {slots final : Slots} {memo : Memo}

/-! What a run does is decided by the instruction it stands at. -/

theorem runs_accept_iff (fetch : program.insts[pc]? = some .accept) :
    program.Runs choices pc pos rest slots final ↔ choices = [] ∧ rest = [] ∧ final = slots := by
  constructor
  · intro run
    cases run with
    | accept _ => exact ⟨rfl, rfl, rfl⟩
    | literal fetched | token fetched | take fetched | skip fetched => simp [fetch] at fetched
  · rintro ⟨rfl, rfl, rfl⟩
    exact .accept fetch

theorem runs_literal_iff {bytes : List UInt8}
    (fetch : program.insts[pc]? = some (.literal bytes)) :
    program.Runs choices pc pos rest slots final ↔
      ∃ left, dropText? bytes rest = some left ∧
        program.Runs choices (pc + 1) (pos + bytes.length) left slots final := by
  constructor
  · intro run
    cases run with
    | literal fetched drops next =>
      obtain rfl := Inst.literal.inj (Option.some.inj (fetch.symm.trans fetched))
      exact ⟨_, drops, next⟩
    | accept fetched | token fetched | take fetched | skip fetched => simp [fetch] at fetched
  · rintro ⟨left, drops, next⟩
    exact .literal fetch drops next

theorem runs_token_iff {slot : Nat} (fetch : program.insts[pc]? = some (.token slot)) :
    program.Runs choices pc pos rest slots final ↔
      ∃ width slashed left, takeWord? rest = some (width, slashed, left) ∧
        program.Runs choices (pc + 1) (pos + width + slashed.toNat) left
          (slots.setIfInBounds slot (some ⟨pos, pos + width⟩)) final := by
  constructor
  · intro run
    cases run with
    | token fetched takes next =>
      obtain rfl := Inst.token.inj (Option.some.inj (fetch.symm.trans fetched))
      exact ⟨_, _, _, takes, next⟩
    | accept fetched | literal fetched | take fetched | skip fetched => simp [fetch] at fetched
  · rintro ⟨width, slashed, left, takes, next⟩
    exact .token fetch takes next

theorem runs_split_iff {target : Nat} (fetch : program.insts[pc]? = some (.split target)) :
    program.Runs choices pc pos rest slots final ↔
      pc < target ∧
        ((∃ later, choices = .take :: later ∧ program.Runs later (pc + 1) pos rest slots final) ∨
          ∃ later, choices = .skip :: later ∧ program.Runs later target pos rest slots final) := by
  constructor
  · intro run
    cases run with
    | take fetched forward next =>
      obtain rfl := Inst.split.inj (Option.some.inj (fetch.symm.trans fetched))
      exact ⟨forward, .inl ⟨_, rfl, next⟩⟩
    | skip fetched forward next =>
      obtain rfl := Inst.split.inj (Option.some.inj (fetch.symm.trans fetched))
      exact ⟨forward, .inr ⟨_, rfl, next⟩⟩
    | accept fetched | literal fetched | token fetched => simp [fetch] at fetched
  · rintro ⟨forward, ⟨later, rfl, next⟩ | ⟨later, rfl, next⟩⟩
    · exact .take fetch forward next
    · exact .skip fetch forward next

theorem Runs.pc_lt (run : program.Runs choices pc pos rest slots final) :
    pc < program.insts.size := by
  cases run with
  | accept fetch | literal fetch | token fetch | take fetch | skip fetch =>
    exact (Array.getElem?_eq_some_iff.mp fetch).1

/-- Whether a run succeeds does not depend on what was captured before it. -/
theorem Runs.of_other_slots (run : program.Runs choices pc pos rest slots final) (others : Slots) :
    ∃ other, program.Runs choices pc pos rest others other := by
  induction run generalizing others with
  | accept fetch => exact ⟨others, .accept fetch⟩
  | literal fetch drops _ ih =>
    obtain ⟨other, next⟩ := ih others
    exact ⟨other, .literal fetch drops next⟩
  | token fetch takes _ ih =>
    obtain ⟨other, next⟩ := ih _
    exact ⟨other, .token fetch takes next⟩
  | take fetch forward _ ih =>
    obtain ⟨other, next⟩ := ih others
    exact ⟨other, .take fetch forward next⟩
  | skip fetch forward _ ih =>
    obtain ⟨other, next⟩ := ih others
    exact ⟨other, .skip fetch forward next⟩

end Program

/-! ## The search ends with the first run -/

namespace Memo

variable {memo : Memo} {program : Program} {path : List UInt8}

/-- From every split that is remembered as failed there is no run on the rest of the path. -/
def Sound (memo : Memo) (program : Program) (path : List UInt8) : Prop :=
  ∀ pc pos, (pc, pos) ∈ memo.failed → ∀ choices slots final,
    ¬ program.Runs choices pc pos (path.drop pos) slots final

theorem sound_empty (program : Program) (path : List UInt8) : empty.Sound program path := by
  intro pc pos member
  simp [empty] at member

theorem Sound.enter (sound : memo.Sound program path) (depth : Nat) :
    (memo.enter depth).Sound program path := sound

theorem Sound.expand (sound : memo.Sound program path) (state : Nat × Nat) :
    (memo.expand state).Sound program path := sound

theorem Sound.fail {pc pos : Nat} {slots : Slots} (sound : memo.Sound program path)
    (fails : ∀ choices final, ¬ program.Runs choices pc pos (path.drop pos) slots final) :
    (memo.fail (pc, pos)).Sound program path := by
  intro pc' pos' member choices slots' final run
  -- The search failed with other slots than those of this run, which does not matter.
  rw [mem_failed_fail] at member
  rcases member with same | member
  · obtain ⟨rfl, rfl⟩ := Prod.mk.inj same
    obtain ⟨final', run⟩ := run.of_other_slots slots
    exact fails choices final' run
  · exact sound pc' pos' member choices slots' final run

end Memo

namespace Program

variable {program : Program} {pc pos : Nat} {path rest : List UInt8} {slots final : Slots}
  {memo : Memo}

/-- The run whose choices are preferred to those of every other run. -/
structure FirstRun (program : Program) (choices : List Choice) (pc pos : Nat) (rest : List UInt8)
    (slots final : Slots) : Prop where
  runs : program.Runs choices pc pos rest slots final
  preferred {others : List Choice} {other : Slots} :
    program.Runs others pc pos rest slots other → others = choices ∨ Preferred choices others

/-- What the result of a search says: its slots come from the first run, and without slots there is
no run and nothing false is remembered. -/
def Decides (program : Program) (path : List UInt8) (pc pos : Nat) (rest : List UInt8)
    (slots : Slots) : Option Slots × Memo → Prop
  | (some final, _) => ∃ choices, program.FirstRun choices pc pos rest slots final
  | (none, memo) =>
      memo.Sound program path ∧ ∀ choices final, ¬ program.Runs choices pc pos rest slots final

theorem fetch_of_getElem {inst : Inst} {inRange : pc < program.insts.size}
    (found : program.insts[pc] = inst) : program.insts[pc]? = some inst :=
  Array.getElem?_eq_some_iff.mpr ⟨inRange, found⟩

theorem Decides.congr {pc' pos' : Nat} {rest' : List UInt8} {slots' : Slots}
    {result : Option Slots × Memo} (decides : program.Decides path pc' pos' rest' slots' result)
    (same : ∀ choices final, program.Runs choices pc pos rest slots final ↔
      program.Runs choices pc' pos' rest' slots' final) :
    program.Decides path pc pos rest slots result := by
  match result, decides with
  | (some final, _), ⟨choices, first⟩ =>
    exact ⟨choices, (same _ _).mpr first.runs, fun run => first.preferred ((same _ _).mp run)⟩
  | (none, memo), ⟨sound, fails⟩ =>
    exact ⟨sound, fun choices final run => fails choices final ((same _ _).mp run)⟩

section

variable {target : Nat} (fetch : program.insts[pc]? = some (.split target))
include fetch

theorem FirstRun.take {choices : List Choice} (forward : pc < target)
    (first : program.FirstRun choices (pc + 1) pos rest slots final) :
    program.FirstRun (.take :: choices) pc pos rest slots final := by
  refine ⟨.take fetch forward first.runs, ?_⟩
  intro others other run
  obtain ⟨-, ⟨later, rfl, next⟩ | ⟨later, rfl, next⟩⟩ := (runs_split_iff fetch).mp run
  · rcases first.preferred next with rfl | preferred
    · exact .inl rfl
    · exact .inr (preferred.cons .take)
  · exact .inr .take_skip

theorem FirstRun.skip {choices : List Choice} (forward : pc < target)
    (fails : ∀ choices final, ¬ program.Runs choices (pc + 1) pos rest slots final)
    (first : program.FirstRun choices target pos rest slots final) :
    program.FirstRun (.skip :: choices) pc pos rest slots final := by
  refine ⟨.skip fetch forward first.runs, ?_⟩
  intro others other run
  obtain ⟨-, ⟨later, rfl, next⟩ | ⟨later, rfl, next⟩⟩ := (runs_split_iff fetch).mp run
  · exact absurd next (fails later other)
  · rcases first.preferred next with rfl | preferred
    · exact .inl rfl
    · exact .inr (preferred.cons .skip)

theorem not_runs_split
    (taken : ∀ choices final, ¬ program.Runs choices (pc + 1) pos rest slots final)
    (skipped : ∀ choices final, ¬ program.Runs choices target pos rest slots final) :
    ∀ choices final, ¬ program.Runs choices pc pos rest slots final := by
  intro choices final run
  obtain ⟨-, ⟨later, rfl, next⟩ | ⟨later, rfl, next⟩⟩ := (runs_split_iff fetch).mp run
  · exact taken later final next
  · exact skipped later final next

end

/-- The search finds the first run, whatever was remembered before it, as long as nothing false
was. -/
theorem search_decides (depth : Nat) (sound : memo.Sound program path)
    (here : rest = path.drop pos) :
    program.Decides path pc pos rest slots (program.search depth pc pos rest slots memo) := by
  -- The memo is handed from one branch to the next, so soundness of the memo that comes out of a
  -- failed search is part of what is proved by induction.
  fun_induction program.search depth pc pos rest slots memo with
  | case1 depth pc pos rest slots memo inRange bytes found left drops ih =>
    have left_eq : left = path.drop (pos + bytes.length) := by
      rw [← List.drop_drop, ← here, drop_of_dropText? drops]
    apply (ih sound left_eq).congr
    intro choices final
    rw [runs_literal_iff (fetch_of_getElem found)]
    simp [drops]
  | case2 depth pc pos rest slots memo inRange bytes found drops =>
    refine ⟨sound, fun choices final run => ?_⟩
    obtain ⟨left, impossible, _⟩ := (runs_literal_iff (fetch_of_getElem found)).mp run
    simp [drops] at impossible
  | case3 depth pc pos rest slots memo inRange slot found width slashed left takes ih =>
    have left_eq : left = path.drop (pos + width + slashed.toNat) := by
      rw [Nat.add_assoc, ← List.drop_drop, ← here, drop_of_takeWord? takes]
    apply (ih sound left_eq).congr
    intro choices final
    rw [runs_token_iff (fetch_of_getElem found)]
    constructor
    · rintro ⟨width', slashed', left', takes', next⟩
      obtain ⟨rfl, rfl, rfl⟩ : width = width' ∧ slashed = slashed' ∧ left = left' := by
        simpa [takes] using takes'
      exact next
    · intro next
      exact ⟨width, slashed, left, takes, next⟩
  | case4 depth pc pos rest slots memo inRange slot found takes =>
    refine ⟨sound, fun choices final run => ?_⟩
    obtain ⟨_, _, _, impossible, _⟩ := (runs_token_iff (fetch_of_getElem found)).mp run
    simp [takes] at impossible
  | case5 depth pc pos rest slots memo inRange target found failed =>
    refine ⟨sound, fun choices final run => ?_⟩
    rw [here] at run
    exact sound pc pos (Std.HashSet.mem_iff_contains.mpr failed) choices slots final run
  | case6 depth pc pos rest slots memo inRange target found _ forward final memo' result ih =>
    have decides := ih ((sound.expand _).enter (depth + 1)) here
    rw [result] at decides
    obtain ⟨choices, first⟩ := decides
    exact ⟨_, first.take (fetch_of_getElem found) forward⟩
  | case7 depth pc pos rest slots memo inRange target found _ forward memo₁ result₁ final memo₂
      result₂ ihTake ihSkip =>
    have taken := ihTake ((sound.expand _).enter (depth + 1)) here
    rw [result₁] at taken
    have skipped := ihSkip (taken.1.enter (depth + 1)) here
    rw [result₂] at skipped
    obtain ⟨choices, first⟩ := skipped
    exact ⟨_, first.skip (fetch_of_getElem found) forward taken.2⟩
  | case8 depth pc pos rest slots memo inRange target found _ forward memo₁ result₁ memo₂ result₂
      ihTake ihSkip =>
    have taken := ihTake ((sound.expand _).enter (depth + 1)) here
    rw [result₁] at taken
    have skipped := ihSkip (taken.1.enter (depth + 1)) here
    rw [result₂] at skipped
    -- Only now, after both branches, is the state remembered.
    have fails := not_runs_split (fetch_of_getElem found) taken.2 skipped.2
    exact ⟨skipped.1.fail (here ▸ fails), fails⟩
  | case9 depth pc pos rest slots memo inRange target found _ backward =>
    refine ⟨sound, fun choices final run => ?_⟩
    exact backward ((runs_split_iff (fetch_of_getElem found)).mp run).1
  | case10 depth pc pos rest slots memo inRange found finished =>
    have fetch := fetch_of_getElem found
    rw [List.isEmpty_iff] at finished
    refine ⟨[], (runs_accept_iff fetch).mpr ⟨rfl, finished, rfl⟩, fun run => ?_⟩
    exact .inl ((runs_accept_iff fetch).mp run).1
  | case11 depth pc pos rest slots memo inRange found unfinished =>
    refine ⟨sound, fun choices final run => ?_⟩
    have finished := ((runs_accept_iff (fetch_of_getElem found)).mp run).2.1
    exact unfinished (List.isEmpty_iff.mpr finished)
  | case12 depth pc pos rest slots memo outOfRange =>
    exact ⟨sound, fun choices final run => outOfRange run.pc_lt⟩

theorem run_decides (program : Program) (path : List UInt8) :
    program.Decides path 0 0 path (Array.replicate program.slots none) (program.run path) :=
  search_decides 0 ((Memo.sound_empty program path).enter 0) rfl

end Program

end PathRouting.Pattern
