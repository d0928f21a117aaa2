import Mathlib.Data.List.Chain
import PathRouting.Pattern.Reading
import PathRouting.Proofs.Text.Words

/-!
# How segments are written

The grammar of patterns, said of the segments alone: how a segment may be spelled, which lists of
segments are in normal form, and the spelling that writes every slash and every question mark.
Between segments and characters stand marks, the lexemes without their places; what holds of
segments is carried over to their marks.
-/

namespace PathRouting.Pattern

open PathRouting.Text

/-! ## Spellings -/

section

variable {α : Type} {spells : α → List Char → Prop}

/-- The characters are spellings of the elements, one behind the other. -/
inductive Written (spells : α → List Char → Prop) : List α → List Char → Prop where
  | nil : Written spells [] []
  | cons {a : α} {as : List α} {chars rest : List Char} (head : spells a chars)
      (tail : Written spells as rest) : Written spells (a :: as) (chars ++ rest)

theorem written_cons_iff {a : α} {as : List α} {chars : List Char} :
    Written spells (a :: as) chars ↔
      ∃ front back, chars = front ++ back ∧ spells a front ∧ Written spells as back := by
  constructor
  · intro written
    cases written with
    | cons head tail => exact ⟨_, _, rfl, head, tail⟩
  · rintro ⟨front, back, rfl, head, tail⟩
    exact .cons head tail

theorem written_singleton_iff {a : α} {chars : List Char} :
    Written spells [a] chars ↔ spells a chars := by
  rw [written_cons_iff]
  constructor
  · rintro ⟨front, back, rfl, head, tail⟩
    cases tail
    rwa [List.append_nil]
  · intro head
    exact ⟨chars, [], (List.append_nil chars).symm, head, .nil⟩

theorem written_append_iff {as bs : List α} {chars : List Char} :
    Written spells (as ++ bs) chars ↔
      ∃ front back, chars = front ++ back ∧ Written spells as front ∧ Written spells bs back := by
  induction as generalizing chars with
  | nil =>
    constructor
    · intro written
      exact ⟨[], chars, rfl, .nil, written⟩
    · rintro ⟨front, back, rfl, nothing, written⟩
      cases nothing
      exact written
  | cons a as ih =>
    rw [List.cons_append, written_cons_iff]
    constructor
    · rintro ⟨front, back, rfl, head, tail⟩
      obtain ⟨middle, back, rfl, tail, written⟩ := ih.mp tail
      exact ⟨front ++ middle, back, (List.append_assoc ..).symm, .cons head tail, written⟩
    · rintro ⟨front, back, rfl, both, written⟩
      obtain ⟨front, middle, rfl, head, tail⟩ := written_cons_iff.mp both
      exact ⟨front, middle ++ back, List.append_assoc .., head, ih.mpr ⟨_, _, rfl, tail, written⟩⟩

end

def optionally (c : Char) : Bool → List Char
  | true => [c]
  | false => []

/-- A piece as it is written, a token with or without a slash of its own. -/
def Piece.spelling (slashed : Bool) : Piece → List Char
  | literal text => text.toList
  | token name optional =>
      ':' :: (name.toList ++ (optionally '?' optional ++ optionally '/' slashed))

def Piece.Spells (p : Piece) (chars : List Char) : Prop :=
  ∃ slashed, chars = p.spelling slashed

/-- A group is written in parentheses, with or without a question mark behind it. -/
inductive Segment.Spells : Segment → List Char → Prop where
  | piece {p : Piece} {chars : List Char} (spells : p.Spells chars) : Spells (.piece p) chars
  | group {body : List Piece} {chars : List Char} (written : Written Piece.Spells body chars)
      (marked : Bool) : Spells (.group body) ('(' :: (chars ++ ')' :: optionally '?' marked))

/-- A segment with every slash and every question mark that it may have. -/
def Segment.canonical : Segment → List Char
  | piece p => p.spelling true
  | group body => '(' :: (body.flatMap (Piece.spelling true) ++ [')', '?'])

/-- The spelling with every slash and every question mark. -/
def canonical (segments : List Segment) : String :=
  String.ofList (segments.flatMap Segment.canonical)

/-! ## Normal form -/

/-- Text that stands for itself: it has no parenthesis, and no colon before a word character. -/
def Plain (chars : List Char) : Prop :=
  '(' ∉ chars ∧ ')' ∉ chars ∧ chars.IsChain fun c d => c = ':' → isWordChar d = false

namespace Piece

def isLiteral : Piece → Bool
  | literal _ => true
  | token _ _ => false

/-- A literal is not empty and stands for itself, a name is a word. -/
def Normal : Piece → Prop
  | literal text => text ≠ "" ∧ Plain text.toList
  | token name _ => IsWord name

/-- Pieces that may stand next to each other: not both are literals. -/
def Apart (p q : Piece) : Prop :=
  ¬ (p.isLiteral = true ∧ q.isLiteral = true)

end Piece

namespace Segment

/-- A group is not empty and has no two literals next to each other. -/
def Normal : Segment → Prop
  | piece p => p.Normal
  | group body => body ≠ [] ∧ (∀ p ∈ body, p.Normal) ∧ body.IsChain Piece.Apart

def Apart : Segment → Segment → Prop
  | piece p, piece q => p.Apart q
  | _, _ => True

end Segment

/-- The normal form of patterns. -/
structure Normal (segments : List Segment) : Prop where
  each : ∀ s ∈ segments, s.Normal
  apart : segments.IsChain Segment.Apart
  few : (tokenNames segments).length ≤ 64
  distinct : (tokenNames segments).Nodup

/-! ## Marks -/

namespace Mark

/-- A mark as it is written, with or without the character that may stand behind it. -/
def spelling (trailed : Bool) : Mark → List Char
  | text chars => chars
  | token name optional => ':' :: (name ++ (optionally '?' optional ++ optionally '/' trailed))
  | opening => ['(']
  | closing => ')' :: optionally '?' trailed

def Spells (m : Mark) (chars : List Char) : Prop :=
  ∃ trailed, chars = m.spelling trailed

def isText : Mark → Bool
  | text _ => true
  | _ => false

def Normal : Mark → Prop
  | text chars => chars ≠ [] ∧ Plain chars
  | token name _ => name ≠ [] ∧ ∀ c ∈ name, isWordChar c = true
  | _ => True

def Apart (m n : Mark) : Prop :=
  ¬ (m.isText = true ∧ n.isText = true)

theorem apart_of_left {m : Mark} (other : m.isText = false) (n : Mark) : m.Apart n := by
  simp [Apart, other]

theorem apart_of_right {n : Mark} (other : n.isText = false) (m : Mark) : m.Apart n := by
  simp [Apart, other]

end Mark

def Piece.mark : Piece → Mark
  | literal text => .text text.toList
  | token name optional => .token name.toList optional

/-- The marks of a segment, a group between its parentheses. -/
def Segment.marks : Segment → List Mark
  | piece p => [p.mark]
  | group body => .opening :: (body.map Piece.mark ++ [.closing])

namespace Piece

@[simp] theorem spelling_mark (slashed : Bool) (p : Piece) :
    p.mark.spelling slashed = p.spelling slashed := by
  cases p <;> rfl

@[simp] theorem spells_mark {p : Piece} {chars : List Char} :
    p.mark.Spells chars ↔ p.Spells chars := by
  simp [Mark.Spells, Spells]

@[simp] theorem normal_mark {p : Piece} : p.mark.Normal ↔ p.Normal := by
  cases p with
  | literal text => simp [mark, Mark.Normal, Normal]
  | token name optional => rfl

@[simp] theorem apart_mark {p q : Piece} : p.mark.Apart q.mark ↔ p.Apart q := by
  cases p <;> cases q <;> rfl

end Piece

section

variable {body : List Piece} {segments : List Segment} {chars : List Char}

theorem written_map_mark : Written Mark.Spells (body.map Piece.mark) chars ↔
    Written Piece.Spells body chars := by
  induction body generalizing chars with
  | nil => exact ⟨fun | .nil => .nil, fun | .nil => .nil⟩
  | cons p body ih => simp only [List.map_cons, written_cons_iff, Piece.spells_mark, ih]

theorem Written.of_marks (written : Written Mark.Spells (segments.flatMap Segment.marks) chars) :
    Written Segment.Spells segments chars := by
  induction segments generalizing chars with
  | nil =>
    cases written
    exact .nil
  | cons s segments ih =>
    rw [List.flatMap_cons] at written
    obtain ⟨front, back, rfl, head, tail⟩ := written_append_iff.mp written
    refine .cons ?_ (ih tail)
    cases s with
    | piece p => exact .piece (Piece.spells_mark.mp (written_singleton_iff.mp head))
    | group body =>
      obtain ⟨_, _, rfl, ⟨_, rfl⟩, behind⟩ := written_cons_iff.mp head
      obtain ⟨inside, _, rfl, inner, closed⟩ := written_append_iff.mp behind
      obtain ⟨marked, rfl⟩ := written_singleton_iff.mp closed
      exact .group (written_map_mark.mp inner) marked

theorem flatMap_canonical (segments : List Segment) :
    segments.flatMap Segment.canonical =
      (segments.flatMap Segment.marks).flatMap (Mark.spelling true) := by
  rw [List.flatMap_assoc]
  congr 1
  funext s
  cases s with
  | piece p => simp [Segment.canonical, Segment.marks]
  | group body =>
    simp only [Segment.canonical, Segment.marks, List.flatMap_cons, List.flatMap_append,
      List.flatMap_map, Piece.spelling_mark, List.flatMap_nil, List.append_nil]
    rfl

theorem forall_normal_marks_iff :
    (∀ m ∈ segments.flatMap Segment.marks, m.Normal) ↔
      (∀ p, .piece p ∈ segments → p.Normal) ∧
        ∀ body, .group body ∈ segments → ∀ p ∈ body, p.Normal := by
  simp only [List.forall_mem_flatMap]
  constructor
  · intro normal
    refine ⟨fun p member => ?_, fun body member p inside => ?_⟩
    · exact Piece.normal_mark.mp (normal (.piece p) member p.mark (by simp [Segment.marks]))
    · exact Piece.normal_mark.mp (normal (.group body) member p.mark
        (by simp [Segment.marks, List.mem_map_of_mem inside]))
  · rintro ⟨pieces, groups⟩ s member m inside
    cases s with
    | piece p =>
      obtain rfl := List.mem_singleton.mp inside
      exact Piece.normal_mark.mpr (pieces p member)
    | group body =>
      simp only [Segment.marks, List.mem_cons, List.mem_append, List.mem_map, List.not_mem_nil,
        or_false] at inside
      obtain rfl | ⟨p, within, rfl⟩ | rfl := inside
      · trivial
      · exact Piece.normal_mark.mpr (groups body member p within)
      · trivial

theorem isChain_marks_iff {s : Segment} :
    s.marks.IsChain Mark.Apart ↔ ∀ body, s = .group body → body.IsChain Piece.Apart := by
  cases s with
  | piece p => simp [Segment.marks]
  | group body =>
    simp only [Segment.marks, List.isChain_cons, List.isChain_append, List.isChain_map,
      Piece.apart_mark, Segment.group.injEq, forall_eq']
    constructor
    · rintro ⟨-, chain, -, -⟩
      exact chain
    · intro chain
      refine ⟨fun m _ => Mark.apart_of_left rfl m, chain, ⟨nofun, .nil⟩, fun m _ n first => ?_⟩
      obtain rfl : Mark.closing = n := by simpa using first
      exact Mark.apart_of_right rfl m

theorem apart_marks_iff {s t : Segment} :
    (∀ m ∈ s.marks.getLast?, ∀ n ∈ t.marks.head?, m.Apart n) ↔ s.Apart t := by
  have closing (body : List Piece) : (Segment.group body).marks.getLast? = some .closing := by
    rw [Segment.marks, ← List.cons_append, List.getLast?_concat]
  cases s with
  | piece p =>
    cases t with
    | piece q => simp [Segment.marks, Segment.Apart]
    | group body => simp [Segment.marks, Segment.Apart, Mark.apart_of_right (n := .opening) rfl]
  | group body => simp [closing, Segment.Apart, Mark.apart_of_left (m := .closing) rfl]

theorem isChain_flatMap_marks_iff :
    (segments.flatMap Segment.marks).IsChain Mark.Apart ↔
      segments.IsChain Segment.Apart ∧
        ∀ body, .group body ∈ segments → body.IsChain Piece.Apart := by
  have nonempty : [] ∉ segments.map Segment.marks := by
    simp only [List.mem_map, not_exists, not_and]
    intro s _
    cases s <;> simp [Segment.marks]
  rw [List.flatMap_def, List.isChain_flatten nonempty, List.isChain_map, and_comm]
  simp only [apart_marks_iff, List.forall_mem_map, isChain_marks_iff]
  refine and_congr_right fun _ =>
    ⟨fun chains body member => ?_, fun chains s member body same => ?_⟩
  · exact chains _ member body rfl
  · exact chains body (same ▸ member)

/-- Segments are normal one by one and apart exactly if their marks are, and no group is empty. -/
theorem normal_iff_marks :
    (∀ s ∈ segments, s.Normal) ∧ segments.IsChain Segment.Apart ↔
      (∀ m ∈ segments.flatMap Segment.marks, m.Normal) ∧
        (segments.flatMap Segment.marks).IsChain Mark.Apart ∧ .group [] ∉ segments := by
  rw [forall_normal_marks_iff, isChain_flatMap_marks_iff]
  constructor
  · rintro ⟨each, apart⟩
    refine ⟨⟨fun p member => each _ member, fun body member => (each _ member).2.1⟩,
      ⟨apart, fun body member => (each _ member).2.2⟩, fun member => (each _ member).1 rfl⟩
  · rintro ⟨⟨pieces, groups⟩, ⟨apart, inside⟩, nonempty⟩
    refine ⟨fun s member => ?_, apart⟩
    cases s with
    | piece p => exact pieces p member
    | group body =>
      exact ⟨fun empty => nonempty (empty ▸ member), groups body member, inside body member⟩

end

end PathRouting.Pattern
