import Mathlib.Data.List.Chain
import PathRouting.Template
import PathRouting.Proofs.Text.Words

/-!
# Filled segments

What a template gives when every token has a word.  If no group runs into what follows it and no
two slashes meet, collapsing takes away the slashes behind groups and nothing else, so that the
path is the text of the segments with the words in place of the tokens.
-/

namespace PathRouting

open PathRouting.Text

/-! ## Single slashes -/

/-- No two slashes stand next to each other. -/
def SingleSlashes (chars : List Char) : Prop :=
  chars.IsChain fun c d => ¬ (c = '/' ∧ d = '/')

theorem singleSlashes_concat {chars : List Char} (none : '/' ∉ chars) :
    SingleSlashes (chars ++ ['/']) := by
  induction chars with
  | nil => exact .singleton _
  | cons c chars ih =>
    rw [List.mem_cons, not_or] at none
    exact List.isChain_cons.mpr ⟨fun d _ slashes => none.1 slashes.1.symm, ih none.2⟩

/-- Characters that keep single slashes with what is kept of the text before them are kept. -/
theorem collapseSlashes_append {before chars : List Char} (single : SingleSlashes (before ++ chars))
    (behind : List Char) :
    collapseSlashes (before.getLast? == some '/') (chars ++ behind) =
      chars ++ collapseSlashes ((before ++ chars).getLast? == some '/') behind := by
  induction chars generalizing before with
  | nil => rw [List.append_nil, List.nil_append, List.nil_append]
  | cons c chars ih =>
    -- A dropped slash would stand behind another one.
    have kept : (c == '/' && before.getLast? == some '/') = false := by
      rw [Bool.and_eq_false_iff, beq_eq_false_iff_ne, beq_eq_false_iff_ne, ← not_and_or]
      rintro ⟨slash, last⟩
      exact (List.isChain_append.mp single).2.2 '/' last c rfl ⟨rfl, slash⟩
    have last : (c == '/') = ((before ++ [c]).getLast? == some '/') := by simp
    rw [List.cons_append, collapseSlashes, kept, if_neg Bool.false_ne_true, last,
      ih (by rwa [List.append_assoc]), List.append_assoc]
    rfl

namespace Pattern

/-! ## Words in place of tokens -/

/-- A piece with a word and a slash in place of a token. -/
def Piece.filled (word : String → String) : Piece → List Char
  | literal text => text.toList
  | token name _ => (word name).toList ++ ['/']

def Segment.filled (word : String → String) : Segment → List Char
  | piece p => p.filled word
  | group body => body.flatMap (Piece.filled word)

/-- The text of segments with words in place of tokens and without parentheses. -/
def filled (word : String → String) (segments : List Segment) : List Char :=
  segments.flatMap (Segment.filled word)

/-- A piece is written and can be filled: a literal is not empty, a token has a word. -/
def Piece.FilledBy (word : String → String) : Piece → Prop
  | literal text => text ≠ ""
  | token name _ => IsWord (word name)

namespace Piece

variable {word other : String → String} {p q : Piece}

theorem filled_ne_nil (fills : p.FilledBy word) : p.filled word ≠ [] := by
  cases p with
  | literal text => exact fun empty => fills (String.toList_eq_nil_iff.mp empty)
  | token name optional => simp [filled]

theorem getLast?_filled (word other : String → String) (p : Piece) :
    (p.filled word).getLast? = (p.filled other).getLast? := by
  cases p with
  | literal text => rfl
  | token name optional => simp [filled]

theorem slash_notMem_of_isWord {text : String} (isWord : IsWord text) : '/' ∉ text.toList :=
  fun member => absurd (isWord.2 '/' member) (by decide)

theorem singleSlashes_filled_iff (fills : p.FilledBy word) (fills' : p.FilledBy other) :
    SingleSlashes (p.filled word) ↔ SingleSlashes (p.filled other) := by
  cases p with
  | literal text => rfl
  | token name optional =>
    exact iff_of_true (singleSlashes_concat (slash_notMem_of_isWord fills))
      (singleSlashes_concat (slash_notMem_of_isWord fills'))

theorem ne_slash_of_token_filled {name : String} {optional : Bool} {d : Char}
    (fills : (token name optional).FilledBy word)
    (first : d ∈ ((token name optional).filled word).head?) : d ≠ '/' := by
  rintro rfl
  obtain ⟨c, chars, same⟩ := List.exists_cons_of_ne_nil fills.1
  rw [filled, same] at first
  obtain rfl := Option.some.inj first
  exact slash_notMem_of_isWord fills (same ▸ List.mem_cons_self)

theorem meet_filled_iff (fills : q.FilledBy word) (fills' : q.FilledBy other) :
    (∀ c ∈ (p.filled word).getLast?, ∀ d ∈ (q.filled word).head?, ¬ (c = '/' ∧ d = '/')) ↔
      ∀ c ∈ (p.filled other).getLast?, ∀ d ∈ (q.filled other).head?, ¬ (c = '/' ∧ d = '/') := by
  rw [getLast?_filled word other]
  cases q with
  | literal text => rfl
  | token name optional =>
    exact iff_of_true
      (fun _ _ d first slashes => ne_slash_of_token_filled fills first slashes.2)
      (fun _ _ d first slashes => ne_slash_of_token_filled fills' first slashes.2)

end Piece

section

variable {word other : String → String} {pieces : List Piece}

theorem singleSlashes_pieces_iff (fills : ∀ p ∈ pieces, p.FilledBy word)
    (fills' : ∀ p ∈ pieces, p.FilledBy other) :
    SingleSlashes (pieces.flatMap (Piece.filled word)) ↔
      SingleSlashes (pieces.flatMap (Piece.filled other)) := by
  have nonempty {word : String → String} (fills : ∀ p ∈ pieces, p.FilledBy word) :
      [] ∉ pieces.map (Piece.filled word) := by
    intro member
    obtain ⟨p, inside, empty⟩ := List.mem_map.mp member
    exact Piece.filled_ne_nil (fills p inside) empty
  unfold SingleSlashes
  rw [List.flatMap_def, List.flatMap_def, List.isChain_flatten (nonempty fills),
    List.isChain_flatten (nonempty fills'), List.isChain_map, List.isChain_map,
    List.forall_mem_map, List.forall_mem_map]
  refine and_congr (forall₂_congr fun p inside => ?_) ?_
  · exact Piece.singleSlashes_filled_iff (fills p inside) (fills' p inside)
  · exact List.IsChain.iff_of_mem_imp fun p q _ inside =>
      Piece.meet_filled_iff (fills q inside) (fills' q inside)

end

/-! ## Slash-clean segments -/

def Segment.contents : Segment → List Piece
  | piece p => [p]
  | group body => body

def Piece.EndsInSlash : Piece → Prop
  | literal text => text.toList.getLast? = some '/'
  | token _ _ => True

/-- Every group ends in a slash, and no two slashes meet when a letter stands for every token. -/
structure SlashClean (segments : List Segment) : Prop where
  closed : ∀ body, .group body ∈ segments → ∃ p ∈ body.getLast?, p.EndsInSlash
  single : SingleSlashes (filled (fun _ => "x") segments)

section

variable {word : String → String} {body : List Piece} {segments : List Segment}

theorem filled_eq_flatMap (word : String → String) (segments : List Segment) :
    filled word segments = (segments.flatMap Segment.contents).flatMap (Piece.filled word) := by
  rw [List.flatMap_assoc, filled]
  congr 1
  funext s
  cases s with
  | piece p => simp [Segment.filled, Segment.contents]
  | group body => rfl

theorem SlashClean.singleSlashes_filled (clean : SlashClean segments)
    (fills : ∀ s ∈ segments, ∀ p ∈ s.contents, p.FilledBy word) :
    SingleSlashes (filled word segments) := by
  have fills : ∀ p ∈ segments.flatMap Segment.contents, p.FilledBy word :=
    List.forall_mem_flatMap.mpr fills
  have letter : ∀ p ∈ segments.flatMap Segment.contents, p.FilledBy fun _ => "x" := by
    intro p member
    cases p with
    | literal text => exact fills _ member
    | token name optional => exact show IsWord "x" by decide
  have single := clean.single
  rw [filled_eq_flatMap] at single ⊢
  exact (singleSlashes_pieces_iff letter fills).mp single

theorem getLast?_flatMap_filled (word : String → String)
    (closed : ∃ p ∈ body.getLast?, p.EndsInSlash) :
    (body.flatMap (Piece.filled word)).getLast? = some '/' := by
  obtain ⟨p, last, ends⟩ := closed
  obtain ⟨initial, rfl⟩ := List.getLast?_eq_some_iff.mp last
  have slash : (p.filled word).getLast? = some '/' := by
    cases p with
    | literal text => exact ends
    | token name optional => simp [Piece.filled]
  rw [List.flatMap_append, List.flatMap_singleton, List.getLast?_append, slash, Option.some_or]

/-! ## Expansion -/

/-- A segment as a template writes it, a group with a slash behind it. -/
def Segment.expanded (word : String → String) : Segment → List Char
  | piece p => p.filled word
  | group body => body.flatMap (Piece.filled word) ++ ['/']

/-- Collapsing takes away the slashes behind groups and nothing else. -/
theorem collapseSlashes_expanded
    (closed : ∀ body, .group body ∈ segments → ∃ p ∈ body.getLast?, p.EndsInSlash) :
    ∀ before, SingleSlashes (before ++ filled word segments) →
      collapseSlashes (before.getLast? == some '/') (segments.flatMap (Segment.expanded word)) =
        filled word segments := by
  induction segments with
  | nil =>
    intro before _
    rfl
  | cons s segments ih =>
    intro before single
    have ih := ih fun body member => closed body (List.mem_cons_of_mem s member)
    rw [filled, List.flatMap_cons, ← filled, ← List.append_assoc] at single
    have kept : SingleSlashes (before ++ s.filled word) := single.left_of_append
    rw [filled, List.flatMap_cons, List.flatMap_cons, ← filled]
    cases s with
    | piece p =>
      rw [Segment.expanded, ← Segment.filled, collapseSlashes_append kept, ih _ single]
    | group body =>
      have last : (before ++ (Segment.group body).filled word).getLast? = some '/' := by
        rw [List.getLast?_append, Segment.filled,
          getLast?_flatMap_filled word (closed body List.mem_cons_self), Option.some_or]
      have rest := ih _ single
      rw [last] at rest
      rw [Segment.expanded, ← Segment.filled, List.append_assoc, collapseSlashes_append kept, last]
      exact congrArg _ rest

end

end Pattern

/-! ## Words from a bag -/

/-- The text that the bag has for a name. -/
def Bag.word (bag : Bag) (name : String) : String :=
  (bag[name]?.map Value.display).getD ""

/-- The bag holds a value for the name that can be written: one that is not absent and not the empty
text. -/
def Bag.Holds (bag : Bag) (name : String) : Prop :=
  ∃ value, bag[name]? = some value ∧ value ≠ .absent ∧ value ≠ .text ""

/-- Every name has a value that is written as a word. -/
def Bag.Fills (bag : Bag) (names : List String) : Prop :=
  ∀ name ∈ names, ∃ value, bag[name]? = some value ∧ IsWord value.display

theorem Value.isPresent_iff {value : Value} :
    value.isPresent = true ↔ value ≠ .absent ∧ value ≠ .text "" := by
  cases value <;> simp [isPresent]

namespace Bag

variable {bag : Bag} {name : String} {names : List String}

theorem isSome_present?_iff : (bag.present? name).isSome = true ↔ bag.Holds name := by
  simp only [Option.isSome_iff_exists, present?_eq_some_iff, Value.isPresent_iff, Holds]

instance : Decidable (bag.Holds name) :=
  decidable_of_iff ((bag.present? name).isSome = true) isSome_present?_iff

theorem Fills.isWord (fills : bag.Fills names) (member : name ∈ names) :
    IsWord (bag.word name) := by
  obtain ⟨value, found, isWord⟩ := fills name member
  simpa [word, found] using isWord

theorem Fills.holds (fills : bag.Fills names) : ∀ name ∈ names, bag.Holds name := by
  intro name member
  obtain ⟨value, found, isWord⟩ := fills name member
  refine ⟨value, found, ?_, ?_⟩
  · rintro rfl
    exact isWord.1 rfl
  · rintro rfl
    exact isWord.1 rfl

end Bag

namespace Pattern

variable {bag : Bag} {p : Piece} {pieces : List Piece} {s : Segment} {segments : List Segment}

theorem Piece.expand?_eq (holds : ∀ name ∈ p.names, bag.Holds name) :
    p.expand? bag = some (p.filled bag.word) := by
  cases p with
  | literal text => rfl
  | token name optional =>
    obtain ⟨value, found, written⟩ := holds name List.mem_cons_self
    have present := Bag.present?_eq_some_iff.mpr ⟨found, Value.isPresent_iff.mpr written⟩
    simp [Piece.expand?, present, Piece.filled, Bag.word, found]

theorem Piece.expandAll?_eq (holds : ∀ name ∈ pieces.flatMap Piece.names, bag.Holds name) :
    Piece.expandAll? bag pieces = some (pieces.flatMap (Piece.filled bag.word)) := by
  induction pieces with
  | nil => rfl
  | cons p pieces ih =>
    rw [List.flatMap_cons] at holds
    rw [Piece.expandAll?,
      Piece.expand?_eq fun name member => holds name (List.mem_append_left _ member),
      ih fun name member => holds name (List.mem_append_right _ member)]
    rfl

theorem Segment.expand?_eq (holds : ∀ name ∈ s.names, bag.Holds name) :
    s.expand? bag = some (s.expanded bag.word) := by
  cases s with
  | piece p => exact Piece.expand?_eq holds
  | group body => rw [Segment.expand?, Piece.expandAll?_eq holds, Option.map_some, Segment.expanded]

theorem Segment.expandUntilMissed_append (holds : ∀ name ∈ tokenNames segments, bag.Holds name)
    (behind : List Segment) :
    Segment.expandUntilMissed bag (segments ++ behind) =
      segments.flatMap (Segment.expanded bag.word) ++ Segment.expandUntilMissed bag behind := by
  induction segments with
  | nil => rfl
  | cons s segments ih =>
    rw [tokenNames_cons] at holds
    rw [List.cons_append, Segment.expandUntilMissed,
      Segment.expand?_eq fun name member => holds name (List.mem_append_left _ member),
      ih fun name member => holds name (List.mem_append_right _ member), List.flatMap_cons,
      List.append_assoc]

theorem filledBy_of_fills (fills : bag.Fills (tokenNames segments))
    (written : ∀ text, ∀ s ∈ segments, .literal text ∈ s.contents → text ≠ "") :
    ∀ s ∈ segments, ∀ p ∈ s.contents, p.FilledBy bag.word := by
  intro s member p inside
  cases p with
  | literal text => exact written text s member inside
  | token name optional =>
    refine fills.isWord (List.mem_flatMap.mpr ⟨s, member, ?_⟩)
    cases s with
    | piece q =>
      obtain rfl := List.mem_singleton.mp inside
      exact List.mem_cons_self
    | group body => exact List.mem_flatMap.mpr ⟨_, inside, List.mem_cons_self⟩

end Pattern

open PathRouting.Pattern in
theorem Template.expand_eq_filled {template : Template} {bag : Bag}
    (fills : bag.Fills template.tokens) (clean : SlashClean template.segments)
    (written : ∀ text, ∀ s ∈ template.segments, .literal text ∈ s.contents → text ≠ "") :
    template.expand bag = String.ofList (filled bag.word template.segments) := by
  have single := clean.singleSlashes_filled (filledBy_of_fills fills written)
  have whole := Segment.expandUntilMissed_append fills.holds []
  rw [List.append_nil, Segment.expandUntilMissed, List.append_nil] at whole
  rw [Template.expand, whole]
  exact congrArg String.ofList (collapseSlashes_expanded clean.closed [] single)

end PathRouting
