import Mathlib.Algebra.GroupWithZero.Nat
import Mathlib.Data.List.TakeWhile
import PathRouting.Pattern.Segment
import PathRouting.Proofs.Text.Words

/-!
# How segments read a path

What a pattern matches, said of its segments alone.  Every optional token and every group is a
choice: take it, or leave it out.  A list of choices, from left to right and a group before what it
holds, makes reading a path a matter of taking off one piece after another.  `Reads` is that
relation, and `FirstReading` singles out the reading that a pattern answers with: of all lists of
choices that succeed, the one that takes wherever another one skips first.
-/

namespace PathRouting.Pattern

open PathRouting.Text

/-! ## Choices -/

/-- What is decided about an element that may be left out. -/
inductive Choice where
  | take
  | skip
  deriving DecidableEq

/-- At the first choice where they differ, the first list takes and the second skips. -/
def Preferred (choices others : List Choice) : Prop :=
  List.Lex (fun a b => a = .take ∧ b = .skip) choices others

namespace Preferred

variable {choices others : List Choice}

theorem take_skip : Preferred (.take :: choices) (.skip :: others) :=
  List.Lex.rel ⟨rfl, rfl⟩

theorem cons (c : Choice) (preferred : Preferred choices others) :
    Preferred (c :: choices) (c :: others) :=
  List.Lex.cons preferred

theorem asymm (preferred : Preferred choices others) : ¬ Preferred others choices := by
  unfold Preferred at preferred ⊢
  induction preferred with
  | nil => nofun
  | rel differ =>
    intro back
    cases back with
    | rel differ' => exact absurd (differ.1.symm.trans differ'.2) (by decide)
    | cons _ => exact absurd (differ.1.symm.trans differ.2) (by decide)
  | cons _ ih =>
    intro back
    cases back with
    | rel differ => exact absurd (differ.1.symm.trans differ.2) (by decide)
    | cons later => exact ih later

end Preferred

/-! ## Taking segments apart -/

namespace Piece

/-- How many steps it takes to read a piece; to take an optional token is a step of its own. -/
def weight : Piece → Nat
  | literal _ => 1
  | token _ false => 1
  | token _ true => 2

end Piece

namespace Segment

/-- How many steps it takes to read a segment; to take a group is a step of its own. -/
def weight : Segment → Nat
  | piece p => p.weight
  | group body => (body.map Piece.weight).sum + 1

/-- The pieces of a group as segments of their own. -/
def pieces (body : List Piece) : List Segment :=
  body.map piece

@[simp] theorem pieces_nil : pieces [] = [] := rfl

@[simp] theorem pieces_cons (p : Piece) (body : List Piece) :
    pieces (p :: body) = piece p :: pieces body := rfl

@[simp] theorem tokenNames_pieces (body : List Piece) :
    tokenNames (pieces body) = (group body).names := by
  rw [tokenNames, pieces, List.flatMap_map]
  rfl

@[simp] theorem map_weight_pieces (body : List Piece) :
    (pieces body).map weight = body.map Piece.weight := by
  rw [pieces, List.map_map]
  rfl

/-- Segments are read from the left: an optional token is taken as a required one, and a taken
group is replaced by what it holds. -/
@[elab_as_elim]
theorem readInduction {motive : List Segment → Prop} (nil : motive [])
    (literal : ∀ text segments, motive segments → motive (piece (.literal text) :: segments))
    (token : ∀ name segments, motive segments → motive (piece (.token name false) :: segments))
    (optional : ∀ name segments, motive (piece (.token name false) :: segments) →
      motive segments → motive (piece (.token name true) :: segments))
    (group : ∀ body segments, motive (pieces body ++ segments) → motive segments →
      motive (group body :: segments)) :
    ∀ segments, motive segments
  | [] => nil
  | piece (.literal text) :: segments =>
      literal text segments (readInduction nil literal token optional group segments)
  | piece (.token name false) :: segments =>
      token name segments (readInduction nil literal token optional group segments)
  | piece (.token name true) :: segments =>
      optional name segments (readInduction nil literal token optional group _)
        (readInduction nil literal token optional group segments)
  | .group body :: segments =>
      group body segments (readInduction nil literal token optional group _)
        (readInduction nil literal token optional group segments)
termination_by segments => (segments.map weight).sum
decreasing_by
  all_goals
    simp only [List.map_cons, List.map_append, map_weight_pieces, List.sum_cons, List.sum_append,
      weight, Piece.weight]
    omega

end Segment

/-! ## Words of a path -/

/-- A word is taken off a path: a run of word bytes that a slash ends, which is taken too, or that
ends the path.  No longer run could be taken, since a slash is not a word byte. -/
inductive TakesWord (word : String) : List UInt8 → List UInt8 → Prop where
  | slashed (isWord : IsWord word) (rest : List UInt8) :
      TakesWord word (utf8 word ++ slash :: rest) rest
  | final (isWord : IsWord word) : TakesWord word (utf8 word) []

namespace TakesWord

variable {word other : String} {path rest left : List UInt8}

theorem isWord (takes : TakesWord word path rest) : IsWord word := by
  cases takes with
  | slashed isWord _ => exact isWord
  | final isWord => exact isWord

theorem takeWhile_eq (takes : TakesWord word path rest) :
    path.takeWhile isWordByte = utf8 word := by
  have bytes : ∀ b ∈ utf8 word, isWordByte b = true := fun _ => takes.isWord.isWordByte_of_mem
  cases takes with
  | slashed _ rest =>
    rw [List.takeWhile_append_of_pos bytes, List.takeWhile_cons_of_neg (by simp), List.append_nil]
  | final _ => exact List.takeWhile_eq_self_iff.mpr bytes

theorem dropWhile_eq (takes : TakesWord word path rest) :
    path.dropWhile isWordByte = slash :: rest ∨ path.dropWhile isWordByte = [] ∧ rest = [] := by
  have bytes : ∀ b ∈ utf8 word, isWordByte b = true := fun _ => takes.isWord.isWordByte_of_mem
  cases takes with
  | slashed _ rest =>
    left
    rw [List.dropWhile_append_of_pos bytes, List.dropWhile_cons_of_neg (by simp)]
  | final _ =>
    right
    exact ⟨List.dropWhile_eq_nil_iff.mpr bytes, rfl⟩

theorem unique (takes : TakesWord word path rest) (takes' : TakesWord other path left) :
    word = other ∧ rest = left := by
  constructor
  · rw [← takes.isWord.asciiText_utf8, ← takes.takeWhile_eq, takes'.takeWhile_eq,
      takes'.isWord.asciiText_utf8]
  · rcases takes.dropWhile_eq with after | ⟨after, rfl⟩ <;>
      rcases takes'.dropWhile_eq with after' | ⟨after', rfl⟩ <;> simp_all

end TakesWord

/-! ## Readings -/

/-- The segments read the whole path under these choices: `captures` holds the word of every token
they declare, and nothing for a token that was left out. -/
inductive Reads : List Choice → List Segment → List UInt8 → List (Option String) → Prop where
  | done : Reads [] [] [] []
  /-- A literal takes bytes that are equal to its text up to ASCII case. -/
  | literal {choices segments text taken rest captures}
      (same : taken.map lowerByte = (utf8 text).map lowerByte)
      (next : Reads choices segments rest captures) :
      Reads choices (.piece (.literal text) :: segments) (taken ++ rest) captures
  | token {choices segments name word path rest captures}
      (takes : TakesWord word path rest) (next : Reads choices segments rest captures) :
      Reads choices (.piece (.token name false) :: segments) path (some word :: captures)
  /-- A taken token is read as a required one. -/
  | takeToken {choices segments name path captures}
      (next : Reads choices (.piece (.token name false) :: segments) path captures) :
      Reads (.take :: choices) (.piece (.token name true) :: segments) path captures
  | skipToken {choices segments name path captures}
      (next : Reads choices segments path captures) :
      Reads (.skip :: choices) (.piece (.token name true) :: segments) path (none :: captures)
  /-- A taken group is read as what it holds, in front of what follows it. -/
  | takeGroup {choices segments body path captures}
      (next : Reads choices (Segment.pieces body ++ segments) path captures) :
      Reads (.take :: choices) (.group body :: segments) path captures
  | skipGroup {choices segments body path captures}
      (next : Reads choices segments path captures) :
      Reads (.skip :: choices) (.group body :: segments) path
        ((Segment.group body).names.map (fun _ => none) ++ captures)

section

variable {choices : List Choice} {segments : List Segment} {path : List UInt8}
  {captures : List (Option String)}

theorem reads_literal_iff {text : String} :
    Reads choices (.piece (.literal text) :: segments) path captures ↔
      ∃ rest, dropText? (utf8 text) path = some rest ∧ Reads choices segments rest captures := by
  constructor
  · intro reads
    cases reads with
    | literal same next => exact ⟨_, dropText?_eq_some_iff.mpr ⟨_, rfl, same⟩, next⟩
  · rintro ⟨rest, drops, next⟩
    obtain ⟨taken, rfl, same⟩ := dropText?_eq_some_iff.mp drops
    exact .literal same next

theorem reads_token_iff {name : String} :
    Reads choices (.piece (.token name false) :: segments) path captures ↔
      ∃ word rest captured, captures = some word :: captured ∧ TakesWord word path rest ∧
        Reads choices segments rest captured := by
  constructor
  · intro reads
    cases reads with
    | token takes next => exact ⟨_, _, _, rfl, takes, next⟩
  · rintro ⟨word, rest, captured, rfl, takes, next⟩
    exact .token takes next

theorem reads_nil_iff :
    Reads choices [] path captures ↔ choices = [] ∧ path = [] ∧ captures = [] := by
  constructor
  · intro reads
    cases reads
    exact ⟨rfl, rfl, rfl⟩
  · rintro ⟨rfl, rfl, rfl⟩
    exact .done

theorem reads_optional_iff {name : String} :
    Reads choices (.piece (.token name true) :: segments) path captures ↔
      (∃ later, choices = .take :: later ∧
          Reads later (.piece (.token name false) :: segments) path captures) ∨
        ∃ later captured, choices = .skip :: later ∧ captures = none :: captured ∧
          Reads later segments path captured := by
  constructor
  · intro reads
    cases reads with
    | takeToken next => exact .inl ⟨_, rfl, next⟩
    | skipToken next => exact .inr ⟨_, _, rfl, rfl, next⟩
  · rintro (⟨later, rfl, next⟩ | ⟨later, captured, rfl, rfl, next⟩)
    · exact .takeToken next
    · exact .skipToken next

theorem reads_group_iff {body : List Piece} :
    Reads choices (.group body :: segments) path captures ↔
      (∃ later, choices = .take :: later ∧
          Reads later (Segment.pieces body ++ segments) path captures) ∨
        ∃ later captured, choices = .skip :: later ∧
          captures = (Segment.group body).names.map (fun _ => none) ++ captured ∧
          Reads later segments path captured := by
  constructor
  · intro reads
    cases reads with
    | takeGroup next => exact .inl ⟨_, rfl, next⟩
    | skipGroup next => exact .inr ⟨_, _, rfl, rfl, next⟩
  · rintro (⟨later, rfl, next⟩ | ⟨later, captured, rfl, rfl, next⟩)
    · exact .takeGroup next
    · exact .skipGroup next

end

/-- The reading whose choices are preferred to those of every other reading. -/
structure FirstReading (choices : List Choice) (segments : List Segment) (path : List UInt8)
    (captures : List (Option String)) : Prop where
  reads : Reads choices segments path captures
  preferred {others : List Choice} {captured : List (Option String)} :
    Reads others segments path captured → others = choices ∨ Preferred choices others

/-- Under the same choices a path is read in one way only. -/
theorem Reads.unique {choices : List Choice} {segments : List Segment} {path : List UInt8}
    {captures captured : List (Option String)} (reads : Reads choices segments path captures)
    (reads' : Reads choices segments path captured) : captures = captured := by
  induction reads generalizing captured with
  | done =>
    cases reads'
    rfl
  | literal same _ ih =>
    obtain ⟨rest, drops, next⟩ := reads_literal_iff.mp reads'
    rw [dropText?_eq_some_iff.mpr ⟨_, rfl, same⟩, Option.some.injEq] at drops
    exact ih (drops ▸ next)
  | token takes _ ih =>
    obtain ⟨word, rest, later, rfl, takes', next⟩ := reads_token_iff.mp reads'
    obtain ⟨rfl, rfl⟩ := takes.unique takes'
    rw [ih next]
  | takeToken _ ih =>
    cases reads' with
    | takeToken next => exact ih next
  | skipToken _ ih =>
    cases reads' with
    | skipToken next => rw [ih next]
  | takeGroup _ ih =>
    cases reads' with
    | takeGroup next => exact ih next
  | skipGroup _ ih =>
    cases reads' with
    | skipGroup next => rw [ih next]

theorem FirstReading.unique {choices others : List Choice} {segments : List Segment}
    {path : List UInt8} {captures captured : List (Option String)}
    (first : FirstReading choices segments path captures)
    (first' : FirstReading others segments path captured) :
    choices = others ∧ captures = captured := by
  have same : others = choices := by
    rcases first.preferred first'.reads with same | preferred
    · exact same
    · rcases first'.preferred first.reads with same | preferred'
      · exact same.symm
      · exact absurd preferred' preferred.asymm
  subst same
  exact ⟨rfl, first.reads.unique first'.reads⟩

theorem FirstReading.congr {segments others : List Segment} {path other : List UInt8}
    (same : ∀ choices captures,
      Reads choices segments path captures ↔ Reads choices others other captures)
    {choices : List Choice} {captures : List (Option String)} :
    FirstReading choices segments path captures ↔ FirstReading choices others other captures := by
  constructor
  · rintro ⟨reads, preferred⟩
    exact ⟨(same _ _).mp reads, fun reads' => preferred ((same _ _).mpr reads')⟩
  · rintro ⟨reads, preferred⟩
    exact ⟨(same _ _).mpr reads, fun reads' => preferred ((same _ _).mp reads')⟩

theorem FirstReading.of_takes {choices : List Choice} {segments : List Segment}
    {path : List UInt8} {captures : List (Option String)}
    (reads : Reads choices segments path captures) (takes : ∀ c ∈ choices, c = .take) :
    FirstReading choices segments path captures := by
  refine ⟨reads, ?_⟩
  induction reads with
  | done =>
    intro others captured other
    cases other
    exact .inl rfl
  | literal same _ ih =>
    intro others captured other
    obtain ⟨rest, drops, next⟩ := reads_literal_iff.mp other
    rw [dropText?_eq_some_iff.mpr ⟨_, rfl, same⟩, Option.some.injEq] at drops
    exact ih takes (drops ▸ next)
  | token word _ ih =>
    intro others captured other
    obtain ⟨_, rest, later, rfl, word', next⟩ := reads_token_iff.mp other
    obtain ⟨rfl, rfl⟩ := word.unique word'
    exact ih takes next
  | takeToken _ ih =>
    intro others captured other
    cases other with
    | takeToken next =>
      rcases ih (fun c member => takes c (List.mem_cons_of_mem _ member)) next with rfl | preferred
      · exact .inl rfl
      · exact .inr (preferred.cons _)
    | skipToken _ => exact .inr .take_skip
  | takeGroup _ ih =>
    intro others captured other
    cases other with
    | takeGroup next =>
      rcases ih (fun c member => takes c (List.mem_cons_of_mem _ member)) next with rfl | preferred
      · exact .inl rfl
      · exact .inr (preferred.cons _)
    | skipGroup _ => exact .inr .take_skip
  | skipToken _ _ => cases takes .skip List.mem_cons_self
  | skipGroup _ _ => cases takes .skip List.mem_cons_self

/-- Which tokens the choices leave out, in the order the tokens are declared. -/
def leftOut : List Choice → List Segment → List Bool
  | _, [] => []
  | choices, .piece (.literal _) :: segments => leftOut choices segments
  | choices, .piece (.token _ false) :: segments => false :: leftOut choices segments
  | .skip :: choices, .piece (.token _ true) :: segments => true :: leftOut choices segments
  | choices, .piece (.token _ true) :: segments => false :: leftOut choices.tail segments
  | .skip :: choices, .group body :: segments =>
      (Segment.group body).names.map (fun _ => true) ++ leftOut choices segments
  | choices, .group body :: segments => leftOut choices.tail (Segment.pieces body ++ segments)
termination_by _ segments => (segments.map Segment.weight).sum
decreasing_by
  all_goals
    simp only [List.map_cons, List.map_append, Segment.map_weight_pieces, List.sum_cons,
      List.sum_append, Segment.weight, Piece.weight]
    omega

theorem Reads.map_isNone {choices : List Choice} {segments : List Segment} {path : List UInt8}
    {captures : List (Option String)} (reads : Reads choices segments path captures) :
    captures.map Option.isNone = leftOut choices segments := by
  induction reads with
  | done => simp [leftOut]
  | literal _ _ ih => simpa [leftOut] using ih
  | token _ _ ih => simpa [leftOut] using ih
  | takeToken _ ih => simpa [leftOut] using ih
  | skipToken _ ih => simpa [leftOut] using ih
  | takeGroup _ ih => simpa [leftOut] using ih
  | skipGroup _ ih => simpa [leftOut, Function.comp_def] using ih

end PathRouting.Pattern
