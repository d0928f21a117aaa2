import PathRouting.Proofs.Pattern.Compiled

/-!
# The layout of a compiled program

Each element of a pattern has its instructions in a row, as many as its width says.  An optional
element begins with a split that leads behind the last of them.  As elements lie inside one another
or apart, so do the ranges that the splits skip.  The tokens fill the slots in their order.
-/

namespace PathRouting.Pattern

/-! ## Elements -/

def Piece.width : Piece → Nat
  | literal _ => 1
  | token _ false => 1
  | token _ true => 2

def Segment.width : Segment → Nat
  | piece p => p.width
  | group body => 1 + (body.map Piece.width).sum

/-- An optional token among pieces whose instructions begin at `base`: its own are those from
`start` up to but not including `stop`. -/
inductive Piece.Optional : Nat → List Piece → Nat → Nat → Prop where
  | token {base : Nat} {name : String} {body : List Piece} :
      Optional base (.token name true :: body) base (base + width (.token name true))
  | later {base start stop : Nat} {p : Piece} {body : List Piece}
      (behind : Optional (base + p.width) body start stop) : Optional base (p :: body) start stop

/-- An optional token or a group among segments whose instructions begin at `base`, with its own
from `start` up to but not including `stop`. -/
inductive Segment.Optional : Nat → List Segment → Nat → Nat → Prop where
  | token {base : Nat} {name : String} {segments : List Segment} :
      Optional base (.piece (.token name true) :: segments) base
        (base + width (.piece (.token name true)))
  | group {base : Nat} {body : List Piece} {segments : List Segment} :
      Optional base (.group body :: segments) base (base + width (.group body))
  | inner {base start stop : Nat} {body : List Piece} {segments : List Segment}
      (inside : Piece.Optional (base + 1) body start stop) :
      Optional base (.group body :: segments) start stop
  | later {base start stop : Nat} {s : Segment} {segments : List Segment}
      (behind : Optional (base + s.width) segments start stop) :
      Optional base (s :: segments) start stop

/-- Two ranges of instructions lie apart or one inside the other. -/
def NestedOrApart (start stop start' stop' : Nat) : Prop :=
  stop ≤ start' ∨ stop' ≤ start ∨ (start ≤ start' ∧ stop' ≤ stop) ∨ (start' ≤ start ∧ stop ≤ stop')

/-- The slot that an instruction fills. -/
def Inst.slot? : Inst → Option Nat
  | token slot => some slot
  | _ => none

/-! ## Widths -/

variable {base slot start stop start' stop' : Nat}

theorem Piece.length_code (p : Piece) : (p.code base slot).length = p.width := by
  cases p with
  | literal => rfl
  | token name optional => cases optional <;> rfl

theorem Piece.length_codeAll (body : List Piece) :
    (codeAll base slot body).length = (body.map width).sum := by
  induction body generalizing base slot with
  | nil => rfl
  | cons p body ih =>
    rw [codeAll, List.length_append, p.length_code, ih, List.map_cons, List.sum_cons]

theorem Segment.length_code (s : Segment) : (s.code base slot).length = s.width := by
  cases s with
  | piece p => exact p.length_code
  | group body =>
    rw [code, List.length_cons, Piece.length_codeAll, width, Nat.add_comm]

/-! ## Splits -/

/-- The code has a split at `start` with target `stop` if it begins at instruction `base`. -/
def SplitsAt (base : Nat) (code : List Inst) (start stop : Nat) : Prop :=
  base ≤ start ∧ code[start - base]? = some (.split stop)

theorem splitsAt_nil : ¬ SplitsAt base [] start stop := nofun

theorem splitsAt_cons_iff {inst : Inst} {code : List Inst} :
    SplitsAt base (inst :: code) start stop ↔
      (start = base ∧ inst = .split stop) ∨ SplitsAt (base + 1) code start stop := by
  rcases Nat.lt_trichotomy start base with before | rfl | behind
  · simp only [SplitsAt]
    omega
  · have behind : ¬ start + 1 ≤ start := Nat.not_succ_le_self start
    simp only [SplitsAt, Nat.le_refl, Nat.sub_self, List.getElem?_cons_zero, Option.some.injEq,
      true_and, behind, false_and, or_false]
  · have next : start - base = start - (base + 1) + 1 := by omega
    have notFirst : start ≠ base := Nat.ne_of_gt behind
    have inside : base ≤ start := Nat.le_of_lt behind
    have insideRest : base + 1 ≤ start := behind
    simp [SplitsAt, next, notFirst, inside, insideRest]

theorem splitsAt_append_iff {code later : List Inst} :
    SplitsAt base (code ++ later) start stop ↔
      SplitsAt base code start stop ∨ SplitsAt (base + code.length) later start stop := by
  induction code generalizing base with
  | nil => simp [splitsAt_nil]
  | cons inst code ih =>
    rw [List.cons_append, splitsAt_cons_iff, splitsAt_cons_iff, ih, or_assoc, List.length_cons,
      Nat.add_assoc, Nat.add_comm 1]

/-- Only an optional token has a split of its own. -/
theorem Piece.splitsAt_code_iff (p : Piece) : SplitsAt base (p.code base slot) start stop ↔
    (∃ name, p = .token name true) ∧ start = base ∧ stop = base + p.width := by
  cases p with
  | literal text => simp [code, splitsAt_cons_iff, splitsAt_nil]
  | token name optional =>
    cases optional with
    | false => simp [code, splitsAt_cons_iff, splitsAt_nil]
    | true => simp [code, splitsAt_cons_iff, splitsAt_nil, width, eq_comm]

theorem Piece.splitsAt_codeAll_iff (body : List Piece) :
    SplitsAt base (codeAll base slot body) start stop ↔ Optional base body start stop := by
  induction body generalizing base slot with
  | nil => exact iff_of_false splitsAt_nil nofun
  | cons p body ih =>
    rw [codeAll, splitsAt_append_iff, ih, p.length_code, p.splitsAt_code_iff]
    constructor
    · rintro (⟨⟨name, rfl⟩, rfl, rfl⟩ | behind)
      · exact .token
      · exact .later behind
    · intro optional
      cases optional with
      | token => exact .inl ⟨⟨_, rfl⟩, rfl, rfl⟩
      | later behind => exact .inr behind

theorem Segment.splitsAt_codeAll_iff (segments : List Segment) :
    SplitsAt base (codeAll base slot segments) start stop ↔ Optional base segments start stop := by
  induction segments generalizing base slot with
  | nil => exact iff_of_false splitsAt_nil nofun
  | cons s segments ih =>
    rw [codeAll, splitsAt_append_iff, ih, s.length_code]
    have groupStop (body : List Piece) :
        base + 1 + (Piece.codeAll (base + 1) slot body).length = base + width (.group body) := by
      rw [Piece.length_codeAll, width, Nat.add_assoc]
    constructor
    · rintro (splits | behind)
      · cases s with
        | piece p =>
          obtain ⟨⟨name, rfl⟩, rfl, rfl⟩ := p.splitsAt_code_iff.mp splits
          exact .token
        | group body =>
          rw [code, splitsAt_cons_iff, Piece.splitsAt_codeAll_iff, groupStop] at splits
          obtain ⟨rfl, same⟩ | inside := splits
          · obtain rfl := Inst.split.inj same
            exact .group
          · exact .inner inside
      · exact .later behind
    · intro optional
      cases optional with
      | token => exact .inl (splitsAt_cons_iff.mpr (.inl ⟨rfl, rfl⟩))
      | group =>
        rw [code, splitsAt_cons_iff, groupStop]
        exact .inl (.inl ⟨rfl, rfl⟩)
      | inner inside =>
        rw [code, splitsAt_cons_iff, Piece.splitsAt_codeAll_iff]
        exact .inl (.inr inside)
      | later behind => exact .inr behind

/-! ## Ranges of splits -/

theorem Piece.Optional.bounds {body : List Piece} (optional : Optional base body start stop) :
    base ≤ start ∧ start < stop ∧ stop ≤ base + (body.map width).sum := by
  induction optional with
  | token =>
    simp only [width, List.map_cons, List.sum_cons]
    omega
  | later _ ih =>
    simp only [List.map_cons, List.sum_cons]
    omega

theorem Segment.Optional.bounds {segments : List Segment}
    (optional : Optional base segments start stop) :
    base ≤ start ∧ start < stop ∧ stop ≤ base + (segments.map width).sum := by
  induction optional with
  | token =>
    simp only [width, Piece.width, List.map_cons, List.sum_cons]
    omega
  | group =>
    simp only [width, List.map_cons, List.sum_cons]
    omega
  | inner inside =>
    have := inside.bounds
    simp only [width, List.map_cons, List.sum_cons]
    omega
  | later _ ih =>
    simp only [List.map_cons, List.sum_cons]
    omega

theorem Piece.Optional.nestedOrApart {body : List Piece} (one : Optional base body start stop)
    (other : Optional base body start' stop') : NestedOrApart start stop start' stop' := by
  induction one with
  | token =>
    cases other with
    | token => exact .inr (.inr (.inl ⟨Nat.le_refl _, Nat.le_refl _⟩))
    | later behind => exact .inl behind.bounds.1
  | later behind ih =>
    cases other with
    | token => exact .inr (.inl behind.bounds.1)
    | later behind' => exact ih behind'

theorem Segment.Optional.nestedOrApart {segments : List Segment}
    (one : Optional base segments start stop) (other : Optional base segments start' stop') :
    NestedOrApart start stop start' stop' := by
  induction one with
  | token =>
    cases other with
    | token => exact .inr (.inr (.inl ⟨Nat.le_refl _, Nat.le_refl _⟩))
    | later behind => exact .inl behind.bounds.1
  | group =>
    cases other with
    | group => exact .inr (.inr (.inl ⟨Nat.le_refl _, Nat.le_refl _⟩))
    | inner inside =>
      have := inside.bounds
      refine .inr (.inr (.inl ?_))
      simp only [width]
      omega
    | later behind => exact .inl behind.bounds.1
  | inner inside =>
    have := inside.bounds
    cases other with
    | group =>
      refine .inr (.inr (.inr ?_))
      simp only [width]
      omega
    | inner inside' => exact inside.nestedOrApart inside'
    | later behind =>
      have := behind.bounds.1
      simp only [width] at this
      exact .inl (by omega)
  | later behind ih =>
    have := behind.bounds.1
    cases other with
    | token => exact .inr (.inl this)
    | group => exact .inr (.inl this)
    | inner inside =>
      have := inside.bounds
      simp only [width] at *
      exact .inr (.inl (by omega))
    | later behind' => exact ih behind'

/-! ## Slots -/

theorem Piece.filterMap_slot?_code (p : Piece) :
    (p.code base slot).filterMap Inst.slot? = List.range' slot p.slots := by
  cases p with
  | literal => rfl
  | token name optional => cases optional <;> rfl

theorem Piece.filterMap_slot?_codeAll (body : List Piece) :
    (codeAll base slot body).filterMap Inst.slot? =
      List.range' slot ((body.map slots).foldr (· + ·) 0) := by
  induction body generalizing base slot with
  | nil => rfl
  | cons p body ih =>
    rw [codeAll, List.filterMap_append, p.filterMap_slot?_code, ih, List.map_cons, List.foldr_cons,
      ← List.range'_append_1]

theorem Segment.filterMap_slot?_code (s : Segment) :
    (s.code base slot).filterMap Inst.slot? = List.range' slot s.slots := by
  cases s with
  | piece p => exact p.filterMap_slot?_code
  | group body => exact Piece.filterMap_slot?_codeAll body

theorem Segment.filterMap_slot?_codeAll (segments : List Segment) :
    (codeAll base slot segments).filterMap Inst.slot? =
      List.range' slot ((segments.map slots).foldr (· + ·) 0) := by
  induction segments generalizing base slot with
  | nil => rfl
  | cons s segments ih =>
    rw [codeAll, List.filterMap_append, s.filterMap_slot?_code, ih, List.map_cons, List.foldr_cons,
      ← List.range'_append_1]

/-! ## The end -/

theorem Piece.accept_notMem_code (p : Piece) : Inst.accept ∉ p.code base slot := by
  cases p with
  | literal => simp [code]
  | token name optional => cases optional <;> simp [code]

theorem Piece.accept_notMem_codeAll (body : List Piece) : Inst.accept ∉ codeAll base slot body := by
  induction body generalizing base slot with
  | nil => exact List.not_mem_nil
  | cons p body ih =>
    rw [codeAll, List.mem_append, not_or]
    exact ⟨p.accept_notMem_code, ih⟩

theorem Segment.accept_notMem_codeAll (segments : List Segment) :
    Inst.accept ∉ codeAll base slot segments := by
  induction segments generalizing base slot with
  | nil => exact List.not_mem_nil
  | cons s segments ih =>
    rw [codeAll, List.mem_append, not_or]
    refine ⟨?_, ih⟩
    cases s with
    | piece p => exact p.accept_notMem_code
    | group body => simpa [code] using Piece.accept_notMem_codeAll body

/-! ## Compiled programs -/

namespace Program

variable {segments : List Segment}

theorem compile_accept_iff {pc : Nat} :
    (compile segments).insts[pc]? = some .accept ↔ pc + 1 = (compile segments).insts.size := by
  have noneBefore : Inst.accept ∉ Segment.codeAll 0 0 segments :=
    Segment.accept_notMem_codeAll segments
  have code : (compile segments).insts.toList = Segment.codeAll 0 0 segments ++ [.accept] := rfl
  rw [← Array.getElem?_toList, ← Array.length_toList, code, List.length_append]
  generalize Segment.codeAll 0 0 segments = before at noneBefore
  rcases Nat.lt_trichotomy pc before.length with inside | rfl | beyond
  · rw [List.getElem?_append_left inside]
    refine iff_of_false (fun found => noneBefore (List.mem_of_getElem? found)) ?_
    rw [List.length_singleton]
    omega
  · simp
  · rw [List.getElem?_append_right (Nat.le_of_lt beyond), List.getElem?_eq_none,
      List.length_singleton]
    · refine iff_of_false nofun ?_
      omega
    · rw [List.length_singleton]
      omega

theorem compile_split_iff : (compile segments).insts[start]? = some (.split stop) ↔
    Segment.Optional 0 segments start stop := by
  have code : SplitsAt 0 (Segment.codeAll 0 0 segments ++ [.accept]) start stop ↔
      (compile segments).insts[start]? = some (.split stop) := by
    simp [SplitsAt, compile]
  rw [← code, splitsAt_append_iff, Segment.splitsAt_codeAll_iff, splitsAt_cons_iff]
  simp [splitsAt_nil]

theorem filterMap_slot?_compile : (compile segments).insts.toList.filterMap Inst.slot? =
    List.range (compile segments).slots := by
  simp [compile, Segment.filterMap_slot?_codeAll, Inst.slot?, List.range_eq_range']

end Program

end PathRouting.Pattern
