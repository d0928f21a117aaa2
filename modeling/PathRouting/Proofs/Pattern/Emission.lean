import PathRouting.Pattern.Program

/-!
# Writing a program from front to back

A program can be written in one pass that only ever appends.  The target of a split is not known
when the split is written, so it is set later, when the instructions it skips are there.  What is
written in this way is the compiled program.
-/

namespace PathRouting.Pattern

/-! ## One pass -/

namespace Program

def push (program : Program) (inst : Inst) : Program :=
  { program with insts := program.insts.push inst }

def pushToken (program : Program) : Program :=
  ⟨program.insts.push (.token program.slots), program.slots + 1⟩

/-- Writes a split before a body and sets its target when the body is written. -/
def optionally (program : Program) (body : Program → Program) : Program :=
  let written := body (program.push (.split 0))
  { written with
    insts := written.insts.setIfInBounds program.insts.size (.split written.insts.size) }

end Program

def Piece.emit (program : Program) : Piece → Program
  | literal text => program.push (.literal (Text.utf8 text))
  | token _ false => program.pushToken
  | token _ true => program.optionally .pushToken

def Segment.emit (program : Program) : Segment → Program
  | piece p => p.emit program
  | group body => program.optionally fun program => body.foldl Piece.emit program

/-- The program of some segments, written in one pass. -/
def Program.emitAll (segments : List Segment) : Program :=
  (segments.foldl Segment.emit ⟨#[], 0⟩).push .accept

/-! ## What a pass has written -/

namespace Program

variable {program : Program}

/-- The program with some code behind it that fills some more slots. -/
def extend (program : Program) (code : List Inst) (slots : Nat) : Program :=
  ⟨program.insts ++ code.toArray, program.slots + slots⟩

theorem extend_nil : program.extend [] 0 = program := by
  simp [extend]

theorem extend_extend {code later : List Inst} {slots more : Nat} :
    (program.extend code slots).extend later more =
      program.extend (code ++ later) (slots + more) := by
  simp [extend, Nat.add_assoc]

theorem push_eq_extend (inst : Inst) : program.push inst = program.extend [inst] 0 := by
  simp [push, extend]

theorem pushToken_eq_extend : program.pushToken = program.extend [.token program.slots] 1 := by
  simp [pushToken, extend]

/-- The target is set behind the body, whatever the body writes. -/
theorem optionally_eq_extend {body : Program → Program} {code : List Inst} {slots : Nat}
    (writes : body (program.push (.split 0)) = (program.push (.split 0)).extend code slots) :
    program.optionally body =
      program.extend (.split (program.insts.size + 1 + code.length) :: code) slots := by
  have size : (body (program.push (.split 0))).insts.size =
      program.insts.size + 1 + code.length := by
    rw [writes]
    simp only [extend, push, Array.size_append, Array.size_push, List.size_toArray]
  rw [optionally, size, writes]
  simp only [extend, push, mk.injEq, and_true]
  apply Array.toList_inj.mp
  simp

end Program

/-! ## The pass writes the code of the segments -/

variable {program : Program}

theorem Piece.emit_eq_extend (p : Piece) :
    p.emit program = program.extend (p.code program.insts.size program.slots) p.slots := by
  cases p with
  | literal text => exact program.push_eq_extend _
  | token name optional =>
    cases optional with
    | false => exact program.pushToken_eq_extend
    | true => exact Program.optionally_eq_extend Program.pushToken_eq_extend

theorem Piece.foldl_emit_eq_extend (body : List Piece) :
    body.foldl emit program = program.extend (codeAll program.insts.size program.slots body)
      ((body.map slots).foldr (· + ·) 0) := by
  induction body generalizing program with
  | nil => exact program.extend_nil.symm
  | cons p body ih =>
    rw [List.foldl_cons, ih, p.emit_eq_extend, Program.extend_extend]
    simp [codeAll, Program.extend]

theorem Segment.emit_eq_extend (s : Segment) :
    s.emit program = program.extend (s.code program.insts.size program.slots) s.slots := by
  cases s with
  | piece p => exact p.emit_eq_extend
  | group body =>
    rw [emit, Program.optionally_eq_extend (Piece.foldl_emit_eq_extend body)]
    simp [code, slots, Program.push]

theorem Segment.foldl_emit_eq_extend (segments : List Segment) :
    segments.foldl emit program = program.extend (codeAll program.insts.size program.slots segments)
      ((segments.map slots).foldr (· + ·) 0) := by
  induction segments generalizing program with
  | nil => exact program.extend_nil.symm
  | cons s segments ih =>
    rw [List.foldl_cons, ih, s.emit_eq_extend, Program.extend_extend]
    simp [codeAll, Program.extend]

theorem Program.emitAll_eq_compile (segments : List Segment) :
    emitAll segments = compile segments := by
  rw [emitAll, Segment.foldl_emit_eq_extend, push_eq_extend, extend_extend]
  simp [extend, compile]

end PathRouting.Pattern
