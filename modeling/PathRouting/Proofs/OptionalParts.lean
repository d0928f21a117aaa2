import Mathlib
import PathRouting.Proofs.Matching
import PathRouting.Proofs.Parsing
import PathRouting.Proofs.Slashes

/-!
# Optional parts

A part of a pattern may be left out if its token is optional or if it stands in a group.  To let a
part be left out loses no path: the readings that there were are still there, with one more thing
taken.  And the two ways to say it agree: a group that holds one token is an optional token, for the
paths that are matched and for those that are written.
-/

namespace PathRouting

open PathRouting.Text PathRouting.Pattern

namespace Pattern

/-! ## Loosened segments -/

/-- The second segments are the first with one part that may be left out: a token that had to be
there, or some neighbouring literals and tokens that are put in a group. -/
inductive Loosens : List Segment → List Segment → Prop where
  | token (front back : List Segment) (name : String) :
      Loosens (front ++ .piece (.token name false) :: back)
        (front ++ .piece (.token name true) :: back)
  | tokenInGroup (front back : List Segment) (before after : List Piece) (name : String) :
      Loosens (front ++ .group (before ++ .token name false :: after) :: back)
        (front ++ .group (before ++ .token name true :: after) :: back)
  | group (front back : List Segment) (body : List Piece) (nonempty : body ≠ []) :
      Loosens (front ++ (Segment.pieces body ++ back)) (front ++ .group body :: back)

/-- Whatever the first segments read, the second read too, with the same captures. -/
def Covers (segments others : List Segment) : Prop :=
  ∀ choices path captures, Reads choices segments path captures →
    ∃ choices, Reads choices others path captures

variable {segments others loosened front back : List Segment} {path : String}

theorem Covers.append_left (covers : Covers segments others) (front : List Segment) :
    Covers (front ++ segments) (front ++ others) := by
  induction front using Segment.readInduction with
  | nil => exact covers
  | literal text front ih =>
    intro choices path captures reads
    obtain ⟨rest, drops, next⟩ := reads_literal_iff.mp reads
    obtain ⟨choices, next⟩ := ih _ _ _ next
    exact ⟨choices, reads_literal_iff.mpr ⟨rest, drops, next⟩⟩
  | token name front ih =>
    intro choices path captures reads
    obtain ⟨word, rest, captured, rfl, takes, next⟩ := reads_token_iff.mp reads
    obtain ⟨choices, next⟩ := ih _ _ _ next
    exact ⟨choices, .token takes next⟩
  | optional name front ihTake ihSkip =>
    intro choices path captures reads
    obtain ⟨later, rfl, next⟩ | ⟨later, captured, rfl, rfl, next⟩ := reads_optional_iff.mp reads
    · obtain ⟨choices, next⟩ := ihTake _ _ _ next
      exact ⟨.take :: choices, .takeToken next⟩
    · obtain ⟨choices, next⟩ := ihSkip _ _ _ next
      exact ⟨.skip :: choices, .skipToken next⟩
  | group body front ihTake ihSkip =>
    rw [List.append_assoc, List.append_assoc] at ihTake
    intro choices path captures reads
    obtain ⟨later, rfl, next⟩ | ⟨later, captured, rfl, rfl, next⟩ := reads_group_iff.mp reads
    · obtain ⟨choices, next⟩ := ihTake _ _ _ next
      exact ⟨.take :: choices, .takeGroup next⟩
    · obtain ⟨choices, next⟩ := ihSkip _ _ _ next
      exact ⟨.skip :: choices, .skipGroup next⟩

theorem Segment.pieces_append_cons (before after : List Piece) (p : Piece) (back : List Segment) :
    pieces (before ++ p :: after) ++ back = pieces before ++ piece p :: (pieces after ++ back) := by
  simp [pieces]

theorem covers_optional (name : String) (back : List Segment) :
    Covers (.piece (.token name false) :: back) (.piece (.token name true) :: back) :=
  fun choices _ _ reads => ⟨.take :: choices, .takeToken reads⟩

theorem covers_group (body : List Piece) (back : List Segment) :
    Covers (Segment.pieces body ++ back) (.group body :: back) :=
  fun choices _ _ reads => ⟨.take :: choices, .takeGroup reads⟩

/-- A group covers another one if what it holds does; the same names are left out if it is
skipped. -/
theorem Covers.group {body changed : List Piece}
    (names : (Segment.group body).names = (Segment.group changed).names)
    (covers : Covers (Segment.pieces body ++ back) (Segment.pieces changed ++ back)) :
    Covers (.group body :: back) (.group changed :: back) := by
  intro choices path captures reads
  obtain ⟨later, rfl, next⟩ | ⟨later, captured, rfl, rfl, next⟩ := reads_group_iff.mp reads
  · obtain ⟨choices, next⟩ := covers _ _ _ next
    exact ⟨.take :: choices, .takeGroup next⟩
  · rw [names]
    exact ⟨.skip :: later, .skipGroup next⟩

theorem Loosens.covers (loosens : Loosens segments loosened) : Covers segments loosened := by
  cases loosens with
  | token front back name => exact (covers_optional name back).append_left front
  | tokenInGroup front back before after name =>
    refine (Covers.group ?_ ?_).append_left front
    · simp [Segment.names, Piece.names]
    · rw [Segment.pieces_append_cons, Segment.pieces_append_cons]
      exact (covers_optional name _).append_left _
  | group front back body _ => exact (covers_group body back).append_left front

/-! ## They are patterns again -/

theorem isChain_append_cons_iff {α : Type} {R : α → α → Prop} {a : α} {front back : List α}
    (free : ∀ b, R a b ∧ R b a) :
    (front ++ a :: back).IsChain R ↔ front.IsChain R ∧ back.IsChain R := by
  rw [List.isChain_append, List.isChain_cons]
  constructor
  · rintro ⟨chain, ⟨-, chain'⟩, -⟩
    exact ⟨chain, chain'⟩
  · rintro ⟨chain, chain'⟩
    refine ⟨chain, ⟨fun b _ => (free b).1, chain'⟩, fun b _ c first => ?_⟩
    obtain rfl : a = c := by simpa using first
    exact (free b).2

theorem Piece.apart_token (name : String) (optional : Bool) (p : Piece) :
    (token name optional).Apart p ∧ p.Apart (token name optional) := by
  simp [Apart, isLiteral]

theorem Segment.apart_token (name : String) (optional : Bool) (s : Segment) :
    (piece (.token name optional)).Apart s ∧ s.Apart (piece (.token name optional)) := by
  cases s with
  | piece p => exact Piece.apart_token name optional p
  | group body => exact ⟨trivial, trivial⟩

theorem Segment.apart_group (body : List Piece) (s : Segment) :
    (group body).Apart s ∧ s.Apart (group body) := by
  cases s <;> exact ⟨trivial, trivial⟩

theorem Loosens.tokenNames_eq (loosens : Loosens segments loosened) :
    tokenNames loosened = tokenNames segments := by
  cases loosens with
  | token front back name => simp [Segment.names, Piece.names]
  | tokenInGroup front back before after name => simp [Segment.names, Piece.names]
  | group front back body _ => simp

theorem Loosens.each (loosens : Loosens segments loosened) (normal : Normal segments) :
    ∀ s ∈ loosened, s.Normal := by
  have each := normal.each
  cases loosens with
  | token front back name =>
    rw [List.forall_mem_append, List.forall_mem_cons] at each ⊢
    exact each
  | tokenInGroup front back before after name =>
    rw [List.forall_mem_append, List.forall_mem_cons] at each ⊢
    obtain ⟨inFront, ⟨-, pieces, apart⟩, behind⟩ := each
    refine ⟨inFront, ⟨by simp, ?_, ?_⟩, behind⟩
    · rw [List.forall_mem_append, List.forall_mem_cons] at pieces ⊢
      exact pieces
    · rwa [isChain_append_cons_iff (Piece.apart_token name _)] at apart ⊢
  | group front back body nonempty =>
    rw [List.forall_mem_append, List.forall_mem_append, Segment.pieces, List.forall_mem_map] at each
    have apart := normal.apart.right_of_append.left_of_append
    rw [Segment.pieces, List.isChain_map] at apart
    rw [List.forall_mem_append, List.forall_mem_cons]
    exact ⟨each.1, ⟨nonempty, each.2.1, apart⟩, each.2.2⟩

theorem Loosens.apart (loosens : Loosens segments loosened) (normal : Normal segments) :
    loosened.IsChain Segment.Apart := by
  have apart := normal.apart
  cases loosens with
  | token front back name =>
    rwa [isChain_append_cons_iff (Segment.apart_token name _)] at apart ⊢
  | tokenInGroup front back before after name =>
    rwa [isChain_append_cons_iff (Segment.apart_group _)] at apart ⊢
  | group front back body _ =>
    rw [isChain_append_cons_iff (Segment.apart_group body)]
    exact ⟨apart.left_of_append, apart.right_of_append.right_of_append⟩

theorem Loosens.normal (loosens : Loosens segments loosened) (normal : Normal segments) :
    Normal loosened := by
  have names := loosens.tokenNames_eq
  exact ⟨loosens.each normal, loosens.apart normal, names ▸ normal.few, names ▸ normal.distinct⟩

/-! ## The paths that are matched -/

theorem isSome_captures_iff : ((Program.compile segments).captures path).isSome ↔
    ∃ choices captures, Reads choices segments (utf8 path) captures := by
  rw [← not_iff_not, Option.not_isSome_iff_eq_none, captures_eq_none_iff]
  simp only [not_exists]

/-- A pattern in normal form with one part that may be left out is a pattern in normal form with the
same tokens, and it matches every path that was matched before. -/
theorem captures_of_loosens (normal : Normal segments) (loosens : Loosens segments loosened) :
    Normal loosened ∧ tokenNames loosened = tokenNames segments ∧
      ∀ path, ((Program.compile segments).captures path).isSome →
        ((Program.compile loosened).captures path).isSome := by
  refine ⟨loosens.normal normal, loosens.tokenNames_eq, fun path matched => ?_⟩
  obtain ⟨choices, captures, reads⟩ := isSome_captures_iff.mp matched
  obtain ⟨choices, reads⟩ := loosens.covers _ _ _ reads
  exact isSome_captures_iff.mpr ⟨choices, captures, reads⟩

theorem captures_of_loosens_competing :
    let segments : List Segment := [.piece (.literal "a/"), .group [.literal "b", .token "x" false],
      .piece (.token "y" true), .piece (.token "z" false)]
    let loosened : List Segment := [.piece (.literal "a/"), .group [.literal "b", .token "x" true],
      .piece (.token "y" true), .piece (.token "z" false)]
    Normal segments ∧ Loosens segments loosened ∧
      (Program.compile segments).captures "a/b/k" = some [none, some "b", some "k"] ∧
      Normal loosened ∧ ((Program.compile loosened).captures "a/b/k").isSome := by
  intro segments loosened
  have parsed : parse "a/(b:x):y?:z" = .ok segments := by rfl
  have normal : Normal segments := (normal_of_parse parsed).2
  have loosens : Loosens segments loosened :=
    .tokenInGroup [.piece (.literal "a/")] [.piece (.token "y" true), .piece (.token "z" false)]
      [.literal "b"] [] "x"
  have captured : (Program.compile segments).captures "a/b/k" =
      some [none, some "b", some "k"] := by cbv
  obtain ⟨normal', -, matched⟩ := captures_of_loosens normal loosens
  exact ⟨normal, loosens, captured, normal', matched "a/b/k" (captured ▸ rfl)⟩

/-! ## A group with one token -/

theorem Segment.codeAll_congr {s t : Segment}
    (code : ∀ base slot, s.code base slot = t.code base slot) (slots : s.slots = t.slots)
    (front back : List Segment) (base slot : Nat) :
    codeAll base slot (front ++ s :: back) = codeAll base slot (front ++ t :: back) := by
  induction front generalizing base slot with
  | nil => simp only [List.nil_append, codeAll, code, slots]
  | cons u front ih => simp only [List.cons_append, codeAll, ih]

theorem Program.compile_congr {s t : Segment}
    (code : ∀ base slot, s.code base slot = t.code base slot) (slots : s.slots = t.slots)
    (front back : List Segment) : compile (front ++ s :: back) = compile (front ++ t :: back) := by
  simp only [compile, Segment.codeAll_congr code slots, List.map_append, List.map_cons, slots]

theorem Segment.code_group_token (name : String) (base slot : Nat) :
    (piece (.token name true)).code base slot = (group [.token name false]).code base slot := rfl

theorem Segment.expand?_group_token (bag : Bag) (name : String) :
    (group [.token name false]).expand? bag =
      ((piece (.token name true)).expand? bag).map (· ++ ['/']) := by
  rw [expand?, expand?, Piece.expandAll?, Piece.expandAll?, Piece.expand?, Piece.expand?]
  cases bag.present? name with
  | none => rfl
  | some value =>
    exact congrArg (fun chars => some (chars ++ ['/'])) (List.append_nil _)

theorem Segment.exists_expandUntilMissed_append (bag : Bag) (front : List Segment) :
    ∃ chars, (∀ back, expandUntilMissed bag (front ++ back) =
        chars ++ expandUntilMissed bag back) ∨
      ∀ back, expandUntilMissed bag (front ++ back) = chars := by
  induction front with
  | nil => exact ⟨[], .inl fun back => rfl⟩
  | cons s front ih =>
    obtain ⟨chars, ih⟩ := ih
    cases written : s.expand? bag with
    | none =>
      refine ⟨[], .inr fun back => ?_⟩
      rw [List.cons_append, expandUntilMissed, written]
    | some first =>
      refine ⟨first ++ chars, ih.imp (fun whole back => ?_) fun cut back => ?_⟩
      · rw [List.cons_append, expandUntilMissed, written, List.append_assoc, ← whole]
      · rw [List.cons_append, expandUntilMissed, written, ← cut back]

end Pattern

/-- The slash that a group adds stands behind the slash of its token and does not last. -/
theorem collapseSlashes_group_token (bag : Bag) (front back : List Segment) (name : String) :
    collapseSlashes false
        (Segment.expandUntilMissed bag (front ++ .piece (.token name true) :: back)) =
      collapseSlashes false
        (Segment.expandUntilMissed bag (front ++ .group [.token name false] :: back)) := by
  obtain ⟨chars, whole | cut⟩ := Segment.exists_expandUntilMissed_append bag front
  · rw [whole, whole, Segment.expandUntilMissed, Segment.expandUntilMissed,
      Segment.expand?_group_token, Segment.expand?, Piece.expand?]
    cases bag.present? name with
    | none => rfl
    | some value =>
      simp only [Option.map_some, List.append_assoc, List.singleton_append]
      rw [← List.append_assoc, ← List.append_assoc]
      exact (collapseSlashes_double false _ _).symm
  · rw [cut, cut]

/-- Instead of an optional token a pattern can have a group that holds the token alone: it has the
same names, matches the same paths with the same values, and writes the same path from every bag. -/
theorem group_token_as_optional (front back : List Segment) (name : String) :
    let optional := front ++ .piece (.token name true) :: back
    let grouped := front ++ .group [.token name false] :: back
    tokenNames optional = tokenNames grouped ∧
      (∀ path, (Matcher.pattern (.compile optional) (tokenNames optional)).matchPath path =
        (Matcher.pattern (.compile grouped) (tokenNames grouped)).matchPath path) ∧
      ∀ source other bag,
        Template.expand ⟨source, optional⟩ bag = Template.expand ⟨other, grouped⟩ bag := by
  intro optional grouped
  have names : tokenNames optional = tokenNames grouped := by
    simp [optional, grouped, Segment.names, Piece.names]
  have program : Program.compile optional = Program.compile grouped :=
    Program.compile_congr (Segment.code_group_token name) rfl front back
  refine ⟨names, fun path => by rw [names, program], fun source other bag => ?_⟩
  rw [Template.expand, Template.expand]
  exact congrArg String.ofList (collapseSlashes_group_token bag front back name)

end PathRouting
