import Mathlib.Data.List.TakeWhile
import Mathlib.Data.Option.Basic
import PathRouting.Proofs.Slashes

/-!
# What an expansion holds

A template can be filled as a whole, with a marker for every element that is missed, and cut before
the first marker once the slashes are collapsed; writing stops at the first missed element and comes
to the same.  Only the elements before that one have a say in what is written, so more data can only
go on where less data stopped.
-/

namespace PathRouting

open PathRouting.Pattern

/-! ## Missed segments -/

namespace Pattern

/-- A segment is missed if the bag does not hold all of its names. -/
def Segment.Missed (bag : Bag) (s : Segment) : Prop :=
  ∃ name ∈ s.names, ¬ bag.Holds name

variable {bag : Bag} {p : Piece} {pieces : List Piece} {s : Segment} {segments : List Segment}

instance : DecidablePred (Segment.Missed bag) :=
  fun s => inferInstanceAs (Decidable (∃ name ∈ s.names, ¬ bag.Holds name))

theorem Segment.not_missed_iff : ¬ s.Missed bag ↔ ∀ name ∈ s.names, bag.Holds name := by
  simp only [Missed, not_exists, not_and, not_not]

theorem Piece.expand?_eq_none {name : String} (member : name ∈ p.names)
    (unheld : ¬ bag.Holds name) : p.expand? bag = none := by
  cases p with
  | literal text => exact absurd member List.not_mem_nil
  | token other optional =>
    obtain rfl := List.mem_singleton.mp member
    rw [← Bag.isSome_present?_iff, Option.not_isSome_iff_eq_none] at unheld
    rw [Piece.expand?, unheld, Option.map_none]

theorem Piece.expandAll?_eq_none {name : String} (member : name ∈ pieces.flatMap Piece.names)
    (unheld : ¬ bag.Holds name) : Piece.expandAll? bag pieces = none := by
  induction pieces with
  | nil => exact absurd member List.not_mem_nil
  | cons p pieces ih =>
    rw [List.flatMap_cons, List.mem_append] at member
    cases member with
    | inl first =>
      rw [Piece.expandAll?, Piece.expand?_eq_none first unheld]
      rfl
    | inr later =>
      rw [Piece.expandAll?, ih later]
      cases p.expand? bag <;> rfl

theorem Segment.expand?_of_missed (missed : s.Missed bag) : s.expand? bag = none := by
  obtain ⟨name, member, unheld⟩ := missed
  cases s with
  | piece p => exact Piece.expand?_eq_none member unheld
  | group body => rw [Segment.expand?, Piece.expandAll?_eq_none member unheld, Option.map_none]

theorem Segment.expandUntilMissed_of_missed (missed : ∀ s ∈ segments.head?, s.Missed bag) :
    Segment.expandUntilMissed bag segments = [] := by
  cases segments with
  | nil => rfl
  | cons s segments => rw [Segment.expandUntilMissed, Segment.expand?_of_missed (missed s rfl)]

theorem Segment.expanded_congr {word other : String → String}
    (same : ∀ name ∈ s.names, word name = other name) : s.expanded word = s.expanded other := by
  have pieces (p : Piece) (same : ∀ name ∈ p.names, word name = other name) :
      p.filled word = p.filled other := by
    cases p with
    | literal text => rfl
    | token name optional => rw [Piece.filled, Piece.filled, same name List.mem_cons_self]
  cases s with
  | piece p => exact pieces p same
  | group body =>
    rw [Segment.expanded, Segment.expanded, List.flatMap_congr]
    intro p member
    exact pieces p fun name inside => same name (List.mem_flatMap.mpr ⟨p, member, inside⟩)

end Pattern

/-! ## Up to the first missed one -/

namespace Template

variable {template : Template} {bag : Bag}

/-- The segments in front of the first missed one. -/
def written (template : Template) (bag : Bag) : List Segment :=
  template.segments.takeWhile fun s => ¬ s.Missed bag

/-- The first missed segment, if one is missed. -/
def missed? (template : Template) (bag : Bag) : Option Segment :=
  template.segments.find? fun s => s.Missed bag

theorem exists_segments_eq (template : Template) (bag : Bag) :
    ∃ behind, template.segments = template.written bag ++ behind ∧
      behind.head? = template.missed? bag := by
  refine ⟨_, List.takeWhile_append_dropWhile.symm, ?_⟩
  rw [missed?, List.find?_eq_head?_dropWhile_not]
  simp only [decide_not]

theorem not_missed_of_mem_written {s : Segment} (member : s ∈ template.written bag) :
    ¬ s.Missed bag := by
  have kept := List.mem_takeWhile_imp member
  rwa [decide_eq_true_iff] at kept

theorem holds_of_mem_written :
    ∀ name ∈ tokenNames (template.written bag), bag.Holds name := by
  intro name member
  obtain ⟨s, inside, names⟩ := List.mem_flatMap.mp member
  exact Segment.not_missed_iff.mp (not_missed_of_mem_written inside) name names

theorem missed_of_mem_missed? {s : Segment} (first : s ∈ template.missed? bag) :
    s.Missed bag := by
  rw [missed?, Option.mem_def] at first
  simpa using List.find?_some first

theorem expand_eq_of_segments {front behind : List Segment}
    (split : template.segments = front ++ behind)
    (holds : ∀ name ∈ tokenNames front, bag.Holds name)
    (missed : ∀ s ∈ behind.head?, s.Missed bag) :
    template.expand bag =
      String.ofList (collapseSlashes false (front.flatMap (Segment.expanded bag.word))) := by
  rw [expand, split, Segment.expandUntilMissed_append holds,
    Segment.expandUntilMissed_of_missed missed, List.append_nil]

theorem expand_eq_written (template : Template) (bag : Bag) :
    template.expand bag = String.ofList
      (collapseSlashes false ((template.written bag).flatMap (Segment.expanded bag.word))) := by
  obtain ⟨behind, split, first⟩ := template.exists_segments_eq bag
  apply expand_eq_of_segments split holds_of_mem_written
  intro s head
  exact missed_of_mem_missed? (first ▸ head)

end Template

/-! ## Markers for what is missed -/

/-- A segment with a marker, which is no character, for all of it if it is missed. -/
def Pattern.Segment.marked (bag : Bag) (s : Segment) : List (Option Char) :=
  if s.Missed bag then [none] else (s.expanded bag.word).map some

/-- The text in front of the first marker. -/
def beforeMarker : List (Option Char) → List Char
  | some c :: rest => c :: beforeMarker rest
  | _ => []

theorem beforeMarker_map_some_append {chars : List Char} {rest : List (Option Char)}
    (marker : ∀ c ∈ rest.head?, c = none) : beforeMarker (chars.map some ++ rest) = chars := by
  induction chars with
  | nil =>
    cases rest with
    | nil => rfl
    | cons c rest =>
      obtain rfl := marker c rfl
      rfl
  | cons c chars ih => rw [List.map_cons, List.cons_append, beforeMarker, ih]

/-- What is cut before a marker can be collapsed with it or alone, since a marker is no slash. -/
theorem beforeMarker_collapseRuns {chars : List Char} {rest : List (Option Char)}
    (marker : ∀ c ∈ rest.head?, c = none) :
    beforeMarker (collapseRuns (some '/') (chars.map some ++ rest)) = collapseRuns '/' chars := by
  have ends : ∀ c ∈ rest.head?, c ≠ some '/' := by
    intro c first
    rw [marker c first]
    simp
  have marker : ∀ c ∈ (collapseRuns (some '/') rest).head?, c = none := by
    cases rest with
    | nil => simp [collapseRuns]
    | cons c rest => rwa [head?_collapseRuns]
  rw [collapseRuns_append ends, collapseRuns_map (Option.some_injective Char),
    beforeMarker_map_some_append marker]

namespace Template

variable {template : Template} {bag more : Bag}

/-- The whole template filled, with markers for the missed segments. -/
def marked (template : Template) (bag : Bag) : List (Option Char) :=
  template.segments.flatMap (Segment.marked bag)

/-- The text of the written segments comes first, and nothing or a marker follows it. -/
theorem exists_marked_eq (template : Template) (bag : Bag) :
    ∃ rest, template.marked bag =
        ((template.written bag).flatMap (Segment.expanded bag.word)).map some ++ rest ∧
      ∀ c ∈ rest.head?, c = none := by
  obtain ⟨behind, split, first⟩ := template.exists_segments_eq bag
  refine ⟨behind.flatMap (Segment.marked bag), ?_, ?_⟩
  · have unmarked : (template.written bag).flatMap (Segment.marked bag) =
        ((template.written bag).flatMap (Segment.expanded bag.word)).map some := by
      rw [List.map_flatMap, List.flatMap_congr]
      intro s member
      rw [Segment.marked, if_neg (not_missed_of_mem_written member)]
    rw [marked, split, List.flatMap_append, unmarked]
  · cases behind with
    | nil => simp
    | cons s behind =>
      have missed : s.Missed bag := missed_of_mem_missed? first.symm
      rw [List.flatMap_cons, Segment.marked, if_pos missed]
      rintro c ⟨⟩
      rfl

/-- An expansion is the whole template filled, with one slash for every run of slashes, up to the
first marker.  No two slashes meet in it, and nothing from the first missed segment on is in it. -/
theorem expand_eq_beforeMarker (template : Template) (bag : Bag) :
    template.expand bag =
        String.ofList (beforeMarker (collapseRuns (some '/') (template.marked bag))) ∧
      SingleSlashes (template.expand bag).toList ∧
      template.expand bag = expand ⟨template.source, template.written bag⟩ bag := by
  refine ⟨?_, ?_, ?_⟩
  · obtain ⟨rest, filled, marker⟩ := template.exists_marked_eq bag
    rw [expand_eq_written, filled, beforeMarker_collapseRuns marker,
      collapseSlashes_eq_collapseRuns]
  · rw [expand, String.toList_ofList]
    exact singleSlashes_collapseSlashes _
  · rw [expand_eq_written]
    symm
    exact expand_eq_of_segments (List.append_nil _).symm holds_of_mem_written (by simp)

-- Slashes meet at the borders of what the bag gives, and the group misses its last token.
example : expand ⟨"a//:id//b/(c:n/:tab)d", [.piece (.literal "a//"), .piece (.token "id" false),
      .piece (.literal "/b/"), .group [.literal "c", .token "n" false, .token "tab" false],
      .piece (.literal "d")]⟩
    (((∅ : Bag).insert "id" (.text "/7/")).insert "n" (.int 1)) = "a/7/b/" := by
  rfl

/-! ## More data -/

/-- A bag with the same words for everything that is written continues what is written.  If the
first missed segment is still missed, nothing is added, whatever else the bag holds. -/
theorem expand_isPrefix_expand
    (agrees : ∀ name ∈ tokenNames (template.written bag),
      more.Holds name ∧ more.word name = bag.word name) :
    (template.expand bag).toList <+: (template.expand more).toList ∧
      ((∀ s ∈ template.missed? bag, s.Missed more) →
        template.expand bag = template.expand more) := by
  obtain ⟨behind, split, first⟩ := template.exists_segments_eq bag
  have holds : ∀ name ∈ tokenNames (template.written bag), more.Holds name :=
    fun name member => (agrees name member).1
  have same : (template.written bag).flatMap (Segment.expanded bag.word) =
      (template.written bag).flatMap (Segment.expanded more.word) := by
    refine List.flatMap_congr fun s member => Segment.expanded_congr fun name inside => ?_
    exact (agrees name (List.mem_flatMap.mpr ⟨s, member, inside⟩)).2.symm
  refine ⟨?_, ?_⟩
  · rw [expand_eq_written, same, expand, split, Segment.expandUntilMissed_append holds,
      String.toList_ofList, String.toList_ofList]
    exact collapseSlashes_prefix_append _ _
  · intro missed
    rw [expand_eq_written, same]
    symm
    exact expand_eq_of_segments split holds (first ▸ missed)

theorem expand_isPrefix_expand_group :
    let template : Template := ⟨"user/(:id/)x/:tab?", [.piece (.literal "user/"),
      .group [.token "id" false], .piece (.literal "x/"), .piece (.token "tab" true)]⟩
    let bag : Bag := (∅ : Bag).insert "id" (.int 7)
    let more : Bag := ((∅ : Bag).insert "id" (.text "7")).insert "tab" (.text "a")
    let other : Bag := ((∅ : Bag).insert "id" (.text "7")).insert "y" (.bool true)
    (template.expand bag).toList <+: (template.expand more).toList ∧
      template.expand bag = template.expand other := by
  intro template bag more other
  have agrees : ∀ name ∈ tokenNames (template.written bag),
      more.Holds name ∧ more.word name = bag.word name := by decide
  have agrees' : ∀ name ∈ tokenNames (template.written bag),
      other.Holds name ∧ other.word name = bag.word name := by decide
  have missed : ∀ s ∈ template.missed? bag, s.Missed other := by decide
  exact ⟨(expand_isPrefix_expand agrees).1, (expand_isPrefix_expand agrees').2 missed⟩

end Template

end PathRouting
