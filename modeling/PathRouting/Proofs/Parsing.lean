import PathRouting.Proofs.Fallible
import PathRouting.Proofs.Pattern.Lexing

/-!
# What a pattern is read as

Gathering lexemes is the inverse of writing the marks of segments one behind the other.  With the
checks on the tokens this makes a pattern a spelling of the segments it is read as, and it makes
the normal lists of segments exactly the ones that can be read.
-/

namespace PathRouting.Pattern

open PathRouting.Text

/-! ## Marks of pieces -/

section

variable {p : Piece} {body : List Piece} {m : Mark} {rest : List Mark}
  {segments : List Segment}

namespace Piece

theorem mark_eq_text_iff {chars : List Char} :
    p.mark = .text chars ↔ p = .literal (String.ofList chars) := by
  cases p with
  | literal text => simp [mark, ← String.toList_inj]
  | token name optional => simp [mark]

theorem mark_eq_token_iff {name : List Char} {optional : Bool} :
    p.mark = .token name optional ↔ p = .token (String.ofList name) optional := by
  cases p with
  | literal text => simp [mark]
  | token name' optional' => simp [mark, ← String.toList_inj]

theorem mark_injective : Function.Injective mark := by
  intro p q same
  cases q with
  | literal text => simpa using mark_eq_text_iff.mp same
  | token name optional => simpa using mark_eq_token_iff.mp same

theorem mark_ne_opening : p.mark ≠ .opening := by
  cases p <;> simp [mark]

theorem mark_ne_closing : p.mark ≠ .closing := by
  cases p <;> simp [mark]

end Piece

/-- The marks of a list of pieces end at the first mark that no piece has. -/
theorem map_mark_append_inj {body' : List Piece} {rest' : List Mark} (other : ∀ p, m ≠ Piece.mark p)
    (same : body.map Piece.mark ++ m :: rest = body'.map Piece.mark ++ .closing :: rest') :
    body = body' ∧ m = .closing ∧ rest = rest' := by
  induction body generalizing body' with
  | nil =>
    cases body' with
    | nil => simpa using same
    | cons q body' => exact absurd (List.cons.inj same).1 (other q)
  | cons p body ih =>
    cases body' with
    | nil => exact absurd (List.cons.inj same).1 Piece.mark_ne_closing
    | cons q body' =>
      obtain ⟨head, tail⟩ := List.cons.inj same
      obtain ⟨rfl, closing, rests⟩ := ih tail
      exact ⟨congrArg (· :: body) (Piece.mark_injective head), closing, rests⟩

/-! ## Marks of segments -/

theorem nil_eq_flatMap_marks_iff : [] = segments.flatMap Segment.marks ↔ [] = segments := by
  cases segments with
  | nil => simp
  | cons s segments => cases s <;> simp [Segment.marks]

theorem mark_cons_eq_iff : p.mark :: rest = segments.flatMap Segment.marks ↔
    ∃ later, segments = .piece p :: later ∧ rest = later.flatMap Segment.marks := by
  cases segments with
  | nil => simp
  | cons s later =>
    cases s with
    | piece q => simp [Segment.marks, Piece.mark_injective.eq_iff, eq_comm]
    | group body => simp [Segment.marks, Piece.mark_ne_opening]

theorem piece_cons_iff :
    (∃ later, (rest = later.flatMap Segment.marks ∧ .group [] ∉ later) ∧
        segments = .piece p :: later) ↔
      p.mark :: rest = segments.flatMap Segment.marks ∧ .group [] ∉ segments := by
  rw [mark_cons_eq_iff]
  constructor
  · rintro ⟨later, ⟨same, nonempty⟩, rfl⟩
    exact ⟨⟨later, rfl, same⟩, by simpa using nonempty⟩
  · rintro ⟨⟨later, rfl, same⟩, nonempty⟩
    exact ⟨later, ⟨same, by simpa using nonempty⟩, rfl⟩

theorem opening_cons_eq_iff : .opening :: rest = segments.flatMap Segment.marks ↔
    ∃ body later, segments = .group body :: later ∧
      rest = body.map Piece.mark ++ .closing :: later.flatMap Segment.marks := by
  cases segments with
  | nil => simp
  | cons s later =>
    cases s with
    | piece q => simp [Segment.marks, Piece.mark_ne_opening.symm]
    | group body => simp [Segment.marks]

theorem group_cons_eq_iff :
    .opening :: (body.map Piece.mark ++ .closing :: rest) = segments.flatMap Segment.marks ↔
      ∃ later, segments = .group body :: later ∧ rest = later.flatMap Segment.marks := by
  rw [opening_cons_eq_iff]
  constructor
  · rintro ⟨body', later, rfl, inside⟩
    obtain ⟨rfl, -, same⟩ := map_mark_append_inj (fun _ => Piece.mark_ne_closing.symm) inside
    exact ⟨later, rfl, same⟩
  · rintro ⟨later, rfl, rfl⟩
    exact ⟨body, later, rfl, rfl⟩

theorem closing_cons_ne : .closing :: rest ≠ segments.flatMap Segment.marks := by
  cases segments with
  | nil => simp
  | cons s later =>
    cases s with
    | piece q => simp [Segment.marks, Piece.mark_ne_closing.symm]
    | group body => simp [Segment.marks]

end

/-! ## Gathering -/

/-- The marks of a group that is still open. -/
def OpenGroup.marks : Option OpenGroup → List Mark
  | none => []
  | some g => .opening :: g.body.map Piece.mark

section

variable {pattern : String} {segments : List Segment}

theorem gather_eq_ok_iff {opened : Option OpenGroup} {lexemes : List Lexeme} :
    gather pattern opened lexemes = .ok segments ↔
      OpenGroup.marks opened ++ lexemes.map (·.mark) = segments.flatMap Segment.marks ∧
        .group [] ∉ segments := by
  -- An open group is put in front as marks, so that a piece inside it moves from one side of the
  -- append to the other and the equation stays as it is.
  induction lexemes generalizing opened segments with
  | nil =>
    cases opened with
    | none =>
      rw [gather, Except.ok.injEq, OpenGroup.marks, List.map_nil, List.append_nil,
        nil_eq_flatMap_marks_iff]
      refine ⟨?_, And.left⟩
      rintro rfl
      exact ⟨rfl, List.not_mem_nil⟩
    | some g =>
      refine iff_of_false (by simp [gather]) ?_
      rintro ⟨same, -⟩
      obtain ⟨body, later, -, inside⟩ := opening_cons_eq_iff.mp same
      have closed : Mark.closing ∈ g.body.map Piece.mark ++ [] := by
        rw [show g.body.map Piece.mark ++ [] = _ from inside]
        exact List.mem_append_right _ List.mem_cons_self
      rw [List.append_nil] at closed
      obtain ⟨p, -, impossible⟩ := List.mem_map.mp closed
      exact absurd impossible Piece.mark_ne_closing
  | cons lexeme rest ih =>
    obtain ⟨start, mark⟩ := lexeme
    cases opened with
    | none =>
      cases mark with
      | text chars =>
        have piece : Mark.text chars = (Piece.literal (String.ofList chars)).mark :=
          (Piece.mark_eq_text_iff.mpr rfl).symm
        rw [gather, bind_pure_eq_ok_iff]
        simp only [ih, OpenGroup.marks, List.nil_append, List.map_cons, piece]
        exact piece_cons_iff
      | token name optional =>
        have piece : Mark.token name optional = (Piece.token (String.ofList name) optional).mark :=
          (Piece.mark_eq_token_iff.mpr rfl).symm
        rw [gather, bind_pure_eq_ok_iff]
        simp only [ih, OpenGroup.marks, List.nil_append, List.map_cons, piece]
        exact piece_cons_iff
      | opening =>
        rw [gather, ih]
        rfl
      | closing =>
        refine iff_of_false (by simp [gather]) ?_
        rintro ⟨same, -⟩
        exact closing_cons_ne same
    | some g =>
      cases mark with
      | text chars =>
        rw [gather, ih]
        simp [OpenGroup.marks, Piece.mark]
      | token name optional =>
        rw [gather, ih]
        simp [OpenGroup.marks, Piece.mark]
      | opening =>
        refine iff_of_false (by simp [gather]) ?_
        rintro ⟨same, -⟩
        obtain ⟨body, later, -, inside⟩ := opening_cons_eq_iff.mp same
        obtain ⟨-, impossible, -⟩ :=
          map_mark_append_inj (fun _ => Piece.mark_ne_opening.symm) inside
        cases impossible
      | closing =>
        obtain ⟨start', body⟩ := g
        cases body with
        | nil =>
          refine iff_of_false (by simp [gather]) ?_
          rintro ⟨same, nonempty⟩
          have same : Mark.opening :: (([] : List Piece).map Piece.mark ++
              .closing :: rest.map (·.mark)) = segments.flatMap Segment.marks := same
          obtain ⟨later, rfl, -⟩ := group_cons_eq_iff.mp same
          exact absurd List.mem_cons_self nonempty
        | cons p body =>
          have marks : OpenGroup.marks (some ⟨start', p :: body⟩) ++
              (⟨start, .closing⟩ :: rest : List Lexeme).map (·.mark) =
                .opening :: ((p :: body).map Piece.mark ++ .closing :: rest.map (·.mark)) := rfl
          rw [gather, bind_pure_eq_ok_iff, marks, group_cons_eq_iff]
          simp only [ih, OpenGroup.marks, List.nil_append]
          constructor
          · rintro ⟨later, ⟨same, nonempty⟩, rfl⟩
            exact ⟨⟨later, rfl, same⟩, by simpa using nonempty⟩
          · rintro ⟨⟨later, rfl, same⟩, nonempty⟩
            exact ⟨later, ⟨same, by simpa using nonempty⟩, rfl⟩

end

/-! ## Checks -/

section

variable {pattern : String} {segments : List Segment}

theorem checkLength_eq_ok_iff : checkLength pattern = .ok () ↔ pattern.utf8ByteSize ≤ 4096 := by
  unfold checkLength
  split
  · case isTrue short => exact iff_of_true rfl short
  · case isFalse long => exact iff_of_false nofun long

theorem firstRepeated?_eq_none_iff {seen names : List String} :
    firstRepeated? seen names = none ↔ names.Nodup ∧ ∀ name ∈ names, name ∉ seen := by
  induction names generalizing seen with
  | nil => simp [firstRepeated?]
  | cons name names ih =>
    by_cases repeated : name ∈ seen
    · simp [firstRepeated?, repeated]
    · rw [firstRepeated?, if_neg repeated, ih, List.nodup_cons, List.forall_mem_cons]
      simp only [List.mem_cons, not_or]
      constructor
      · rintro ⟨distinct, new⟩
        exact ⟨⟨fun member => (new name member).1 rfl, distinct⟩, repeated,
          fun other member => (new other member).2⟩
      · rintro ⟨⟨fresh, distinct⟩, -, new⟩
        exact ⟨distinct, fun other member =>
          ⟨fun same => fresh (same ▸ member), new other member⟩⟩

theorem checkTokens_eq_ok_iff (pattern : String) :
    checkTokens pattern segments = .ok () ↔
      (tokenNames segments).length ≤ 64 ∧ (tokenNames segments).Nodup := by
  have nodup_iff : firstRepeated? [] (tokenNames segments) = none ↔
      (tokenNames segments).Nodup := by
    simp [firstRepeated?_eq_none_iff]
  unfold checkTokens
  by_cases few : (tokenNames segments).length ≤ 64
  · simp only [PatternError.maxTokens, Nat.not_lt.mpr few, if_false, ← nodup_iff, few, true_and]
    split <;> simp_all
  · simp only [PatternError.maxTokens, Nat.not_le.mp few, if_true, few, false_and, iff_false]
    exact nofun

theorem parse_eq_ok_iff :
    parse pattern = .ok segments ↔
      pattern.utf8ByteSize ≤ 4096 ∧
        (marks pattern.toList = segments.flatMap Segment.marks ∧ .group [] ∉ segments) ∧
          (tokenNames segments).length ≤ 64 ∧ (tokenNames segments).Nodup := by
  have gathers : gather pattern none (lexemes pattern) = .ok segments ↔
      marks pattern.toList = segments.flatMap Segment.marks ∧ .group [] ∉ segments :=
    gather_eq_ok_iff
  rw [← checkLength_eq_ok_iff, ← gathers, ← checkTokens_eq_ok_iff pattern, parse]
  cases checkLength pattern with
  | error e => simp [bind, Except.bind]
  | ok _ =>
    cases gathered : gather pattern none (lexemes pattern) with
    | error e => simp [bind, Except.bind]
    | ok found =>
      cases checked : checkTokens pattern found with
      | error e =>
        refine ⟨fun impossible => ?_, fun ⟨_, same, accepted⟩ => ?_⟩
        · simp [bind, Except.bind, checked] at impossible
        · rw [← Except.ok.inj same, checked] at accepted
          cases accepted
      | ok _ =>
        simp only [bind, Except.bind, checked, pure, Except.pure, Except.ok.injEq, true_and]
        refine ⟨?_, And.left⟩
        rintro rfl
        exact ⟨rfl, checked⟩

end

/-! ## The grammar -/

theorem normal_of_parse {text : String} {segments : List Segment}
    (parsed : parse text = .ok segments) :
    Written Segment.Spells segments text.toList ∧ Normal segments := by
  obtain ⟨-, ⟨same, nonempty⟩, few, distinct⟩ := parse_eq_ok_iff.mp parsed
  have lexes := lexes_marks text.toList
  rw [same] at lexes
  obtain ⟨each, apart⟩ := normal_iff_marks.mpr ⟨lexes.normal, lexes.apart, nonempty⟩
  exact ⟨.of_marks lexes.written, each, apart, few, distinct⟩

theorem parse_of_normal {segments : List Segment} (normal : Normal segments)
    (short : (canonical segments).utf8ByteSize ≤ 4096) :
    parse (canonical segments) = .ok segments := by
  obtain ⟨each, apart, nonempty⟩ := normal_iff_marks.mp ⟨normal.each, normal.apart⟩
  refine parse_eq_ok_iff.mpr ⟨short, ⟨?_, nonempty⟩, normal.few, normal.distinct⟩
  rw [canonical, String.toList_ofList, flatMap_canonical]
  exact marks_flatMap_spelling each apart

/-- The reader of patterns reads exactly its grammar.  What it reads is in normal form and spelled
by the pattern, with nothing left out, doubled or moved; and segments in normal form are read back
from the spelling that has every slash and every question mark, so writing what was read in this way
and reading it again changes nothing. -/
theorem parse_reads_grammar :
    (∀ text segments, parse text = .ok segments →
      Written Segment.Spells segments text.toList ∧ Normal segments) ∧
    (∀ segments, Normal segments → (canonical segments).utf8ByteSize ≤ 4096 →
      parse (canonical segments) = .ok segments) ∧
    ∀ text segments, parse text = .ok segments → (canonical segments).utf8ByteSize ≤ 4096 →
      parse (canonical segments) = .ok segments := by
  refine ⟨fun text segments => normal_of_parse, fun segments => parse_of_normal, ?_⟩
  intro text segments parsed short
  exact parse_of_normal (normal_of_parse parsed).2 short

theorem parse_reads_grammar_optional_in_group :
    (Written Segment.Spells
        [.piece (.literal "a:/é"), .group [.token "id" true, .literal "/x"],
          .piece (.token "name" false)] "a:/é(:id?//x):name".toList ∧
      Normal [.piece (.literal "a:/é"), .group [.token "id" true, .literal "/x"],
        .piece (.token "name" false)]) ∧
    parse (canonical [.piece (.literal "a:/é"), .group [.token "id" true, .literal "/x"],
        .piece (.token "name" false)]) =
      .ok [.piece (.literal "a:/é"), .group [.token "id" true, .literal "/x"],
        .piece (.token "name" false)] :=
  have parsed : parse "a:/é(:id?//x):name" =
      .ok [.piece (.literal "a:/é"), .group [.token "id" true, .literal "/x"],
        .piece (.token "name" false)] := by rfl
  ⟨parse_reads_grammar.1 _ _ parsed, parse_reads_grammar.2.2 _ _ parsed (by decide)⟩

example : canonical [.piece (.literal "a:/é"), .group [.token "id" true, .literal "/x"],
    .piece (.token "name" false)] = "a:/é(:id?//x)?:name/" := by decide

end PathRouting.Pattern
