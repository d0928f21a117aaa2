import PathRouting.Proofs.Pattern.Runs

/-!
# Compiled segments

The runs of a compiled pattern are the readings of its segments.  The tie is the code that a run
has before it: at every instruction it is the code of the segments that are still to be read, the
bytes that are left are those still to be read, and the slots of all later tokens are empty.
-/

namespace PathRouting.Pattern

open PathRouting.Text

/-! ## The code of segments -/

namespace Piece

theorem slots_eq_length_names (p : Piece) : p.slots = p.names.length := by
  cases p <;> rfl

end Piece

namespace Segment

theorem slots_eq_length_names (s : Segment) : s.slots = s.names.length := by
  cases s with
  | piece p => exact p.slots_eq_length_names
  | group body =>
    rw [slots, names, List.length_flatMap]
    exact congrArg (List.foldr (· + ·) 0)
      (List.map_congr_left fun p _ => p.slots_eq_length_names)

theorem codeAll_pieces_append (base slot : Nat) (body : List Piece) (segments : List Segment) :
    codeAll base slot (pieces body ++ segments) =
      Piece.codeAll base slot body ++
        codeAll (base + (Piece.codeAll base slot body).length)
          (slot + (group body).slots) segments := by
  induction body generalizing base slot with
  | nil => rfl
  | cons p body ih =>
    rw [pieces_cons, List.cons_append, codeAll, Piece.codeAll, ih]
    simp only [code, slots, List.append_assoc, List.length_append, List.map_cons, List.foldr_cons,
      Nat.add_assoc]

theorem codeAll_group (base slot : Nat) (body : List Piece) (segments : List Segment) :
    codeAll base slot (group body :: segments) =
      .split (base + 1 + (Piece.codeAll (base + 1) slot body).length) ::
        codeAll (base + 1) slot (pieces body ++ segments) := by
  rw [codeAll_pieces_append, codeAll, code]
  simp only [List.cons_append, List.length_cons, slots]
  congr 3
  omega

end Segment

theorem Program.slots_compile (segments : List Segment) :
    (compile segments).slots = (tokenNames segments).length := by
  rw [tokenNames, List.length_flatMap]
  exact congrArg (List.foldr (· + ·) 0)
    (List.map_congr_left fun s _ => s.slots_eq_length_names)

/-! ## Where a run stands -/

/-- A run of the program stands before these segments: their code lies ahead, the slots before
theirs hold `done`, and their own are empty. -/
structure Stands (program : Program) (path : List UInt8) (segments : List Segment)
    (done : List (Option Span)) (pc pos : Nat) (rest : List UInt8) (slots : Slots) : Prop where
  code : program.insts.toList.drop pc = Segment.codeAll pc done.length segments ++ [.accept]
  here : rest = path.drop pos
  slots_eq : slots.toList = done ++ List.replicate (tokenNames segments).length none

namespace Stands

variable {program : Program} {path rest : List UInt8} {segments : List Segment}
  {done : List (Option Span)} {pc pos : Nat} {slots : Slots}

theorem fetch_of_drop {inst : Inst} {code : List Inst}
    (ahead : program.insts.toList.drop pc = inst :: code) :
    program.insts[pc]? = some inst ∧ program.insts.toList.drop (pc + 1) = code := by
  constructor
  · rw [← Array.getElem?_toList, ← List.head?_drop, ahead, List.head?_cons]
  · rw [← List.drop_drop, ahead, List.drop_one, List.tail_cons]

theorem compile (segments : List Segment) (path : List UInt8) :
    Stands (.compile segments) path segments [] 0 0 path
      (Array.replicate (Program.compile segments).slots none) where
  code := by simp [Program.compile]
  here := rfl
  slots_eq := by
    simp [Program.slots_compile]

theorem nil (stands : Stands program path [] done pc pos rest slots) :
    program.insts[pc]? = some .accept ∧ slots.toList = done :=
  ⟨(fetch_of_drop stands.code).1, by simpa using stands.slots_eq⟩

theorem literal {text : String} {left : List UInt8}
    (stands : Stands program path (.piece (.literal text) :: segments) done pc pos rest slots)
    (drops : dropText? (utf8 text) rest = some left) :
    Stands program path segments done (pc + 1) (pos + (utf8 text).length) left slots where
  code := (fetch_of_drop stands.code).2
  here := by rw [← List.drop_drop, ← stands.here, drop_of_dropText? drops]
  slots_eq := by simpa [Segment.names, Piece.names] using stands.slots_eq

theorem token {name : String} {left : List UInt8} {width : Nat} {slashed : Bool}
    (stands : Stands program path (.piece (.token name false) :: segments) done pc pos rest slots)
    (takes : takeWord? rest = some (width, slashed, left)) :
    Stands program path segments (done ++ [some ⟨pos, pos + width⟩]) (pc + 1)
      (pos + width + slashed.toNat) left
      (slots.setIfInBounds done.length (some ⟨pos, pos + width⟩)) where
  code := by
    rw [List.length_append]
    exact (fetch_of_drop stands.code).2
  here := by rw [Nat.add_assoc, ← List.drop_drop, ← stands.here, drop_of_takeWord? takes]
  slots_eq := by
    simp [stands.slots_eq, Segment.names, Piece.names, List.replicate_succ]

theorem takeToken {name : String}
    (stands : Stands program path (.piece (.token name true) :: segments) done pc pos rest slots) :
    Stands program path (.piece (.token name false) :: segments) done (pc + 1) pos rest slots where
  code := (fetch_of_drop stands.code).2
  here := stands.here
  slots_eq := stands.slots_eq

theorem skipToken {name : String}
    (stands : Stands program path (.piece (.token name true) :: segments) done pc pos rest slots) :
    Stands program path segments (done ++ [none]) (pc + 2) pos rest slots where
  code := by
    rw [List.length_append]
    exact (fetch_of_drop stands.takeToken.code).2
  here := stands.here
  slots_eq := by
    simp [stands.slots_eq, Segment.names, Piece.names, List.replicate_succ]

theorem group {body : List Piece}
    (stands : Stands program path (.group body :: segments) done pc pos rest slots) :
    ∃ target, program.insts[pc]? = some (.split target) ∧ pc < target ∧
      Stands program path (Segment.pieces body ++ segments) done (pc + 1) pos rest slots ∧
      Stands program path segments (done ++ (Segment.group body).names.map fun _ => none) target
        pos rest slots := by
  have code := stands.code
  rw [Segment.codeAll_group, List.cons_append] at code
  obtain ⟨fetch, ahead⟩ := fetch_of_drop code
  refine ⟨_, fetch, by omega, ⟨ahead, stands.here, by simpa using stands.slots_eq⟩,
    ?_, stands.here, ?_⟩
  · rw [Segment.codeAll_pieces_append, List.append_assoc] at ahead
    rw [← List.drop_drop, ahead, List.drop_left, Segment.slots_eq_length_names]
    simp
  · simp [stands.slots_eq, ← List.replicate_append_replicate, List.map_const']

end Stands

/-! ## Runs are readings -/

theorem Span.text_word {word : String} {path rest left : List UInt8} {pos : Nat}
    (here : rest = path.drop pos) (takes : TakesWord word rest left) :
    Span.text path ⟨pos, pos + (utf8 word).length⟩ = word := by
  have front : rest.take (utf8 word).length = utf8 word := by
    cases takes with
    | slashed _ _ => exact List.take_left
    | final _ => exact List.take_length
  rw [Span.text, ← here, Nat.add_sub_cancel_left, front, takes.isWord.asciiText_utf8]

/-- What spans of a path capture. -/
def Span.texts (path : List UInt8) (spans : List (Option Span)) : List (Option String) :=
  spans.map (·.map (Span.text path))

section

variable {program : Program} {path : List UInt8}

theorem reads_of_runs (segments : List Segment) :
    ∀ {choices done pc pos rest slots final},
      Stands program path segments done pc pos rest slots →
      program.Runs choices pc pos rest slots final →
      ∃ spans, final.toList = done ++ spans ∧
        Reads choices segments rest (Span.texts path spans) := by
  -- By the way the segments are read, since a group is replaced by what it holds.
  induction segments using Segment.readInduction with
  | nil =>
    intro choices done pc pos rest slots final stands run
    obtain ⟨fetch, slots_eq⟩ := stands.nil
    obtain ⟨rfl, rfl, rfl⟩ := (Program.runs_accept_iff fetch).mp run
    exact ⟨[], by simpa using slots_eq, .done⟩
  | literal text segments ih =>
    intro choices done pc pos rest slots final stands run
    obtain ⟨fetch, -⟩ := Stands.fetch_of_drop stands.code
    obtain ⟨left, drops, next⟩ := (Program.runs_literal_iff fetch).mp run
    obtain ⟨spans, split, reads⟩ := ih (stands.literal drops) next
    exact ⟨spans, split, reads_literal_iff.mpr ⟨left, drops, reads⟩⟩
  | token name segments ih =>
    intro choices done pc pos rest slots final stands run
    obtain ⟨fetch, -⟩ := Stands.fetch_of_drop stands.code
    obtain ⟨width, slashed, left, takes, next⟩ := (Program.runs_token_iff fetch).mp run
    obtain ⟨spans, split, reads⟩ := ih (stands.token takes) next
    obtain ⟨word, taken, rfl, -⟩ := takesWord_of_takeWord? takes
    refine ⟨some ⟨pos, pos + (utf8 word).length⟩ :: spans, by simpa using split, ?_⟩
    rw [Span.texts, List.map_cons, Option.map_some, Span.text_word stands.here taken]
    exact .token taken reads
  | optional name segments ihTake ihSkip =>
    intro choices done pc pos rest slots final stands run
    obtain ⟨fetch, -⟩ := Stands.fetch_of_drop stands.code
    obtain ⟨-, ⟨later, rfl, next⟩ | ⟨later, rfl, next⟩⟩ := (Program.runs_split_iff fetch).mp run
    · obtain ⟨spans, split, reads⟩ := ihTake stands.takeToken next
      exact ⟨spans, split, .takeToken reads⟩
    · obtain ⟨spans, split, reads⟩ := ihSkip stands.skipToken next
      exact ⟨none :: spans, by simpa using split, .skipToken reads⟩
  | group body segments ihTake ihSkip =>
    intro choices done pc pos rest slots final stands run
    obtain ⟨target, fetch, -, inside, behind⟩ := stands.group
    obtain ⟨-, ⟨later, rfl, next⟩ | ⟨later, rfl, next⟩⟩ := (Program.runs_split_iff fetch).mp run
    · obtain ⟨spans, split, reads⟩ := ihTake inside next
      exact ⟨spans, split, .takeGroup reads⟩
    · obtain ⟨spans, split, reads⟩ := ihSkip behind next
      refine ⟨(Segment.group body).names.map (fun _ => none) ++ spans, by simpa using split, ?_⟩
      have skipped : Reads _ (.group body :: segments) rest _ := reads.skipGroup
      simpa [Span.texts, Function.comp_def] using skipped

theorem runs_of_reads {choices : List Choice} {segments : List Segment} {rest : List UInt8}
    {captures : List (Option String)} (reads : Reads choices segments rest captures) :
    ∀ {done pc pos slots}, Stands program path segments done pc pos rest slots →
      ∃ final spans, program.Runs choices pc pos rest slots final ∧
        final.toList = done ++ spans ∧ Span.texts path spans = captures := by
  induction reads with
  | done =>
    intro done pc pos slots stands
    obtain ⟨fetch, slots_eq⟩ := stands.nil
    exact ⟨slots, [], .accept fetch, by simpa using slots_eq, rfl⟩
  | @literal choices segments text taken rest captures same next ih =>
    intro done pc pos slots stands
    obtain ⟨fetch, -⟩ := Stands.fetch_of_drop stands.code
    have drops : dropText? (utf8 text) (taken ++ rest) = some rest :=
      dropText?_eq_some_iff.mpr ⟨taken, rfl, same⟩
    obtain ⟨final, spans, run, result⟩ := ih (stands.literal drops)
    exact ⟨final, spans, .literal fetch drops run, result⟩
  | @token choices segments name word path' rest captures takes next ih =>
    intro done pc pos slots stands
    obtain ⟨fetch, -⟩ := Stands.fetch_of_drop stands.code
    obtain ⟨slashed, takes'⟩ := takeWord?_of_takesWord takes
    obtain ⟨final, spans, run, split, texts⟩ := ih (stands.token takes')
    refine ⟨final, some ⟨pos, pos + (utf8 word).length⟩ :: spans, .token fetch takes' run,
      by simpa using split, ?_⟩
    rw [Span.texts, List.map_cons, Option.map_some, Span.text_word stands.here takes, ← texts]
    rfl
  | takeToken next ih =>
    intro done pc pos slots stands
    obtain ⟨fetch, -⟩ := Stands.fetch_of_drop stands.code
    obtain ⟨final, spans, run, result⟩ := ih stands.takeToken
    exact ⟨final, spans, .take fetch (by omega) run, result⟩
  | skipToken next ih =>
    intro done pc pos slots stands
    obtain ⟨fetch, -⟩ := Stands.fetch_of_drop stands.code
    obtain ⟨final, spans, run, split, texts⟩ := ih stands.skipToken
    exact ⟨final, none :: spans, .skip fetch (by omega) run, by simpa using split,
      by simpa [Span.texts] using texts⟩
  | takeGroup next ih =>
    intro done pc pos slots stands
    obtain ⟨target, fetch, forward, inside, -⟩ := stands.group
    obtain ⟨final, spans, run, result⟩ := ih inside
    exact ⟨final, spans, .take fetch forward run, result⟩
  | @skipGroup choices segments body path' captures next ih =>
    intro done pc pos slots stands
    obtain ⟨target, fetch, forward, -, behind⟩ := stands.group
    obtain ⟨final, spans, run, split, texts⟩ := ih behind
    refine ⟨final, (Segment.group body).names.map (fun _ => none) ++ spans,
      .skip fetch forward run, by simpa using split, ?_⟩
    simp [Span.texts, ← texts]

end

end PathRouting.Pattern
