import PathRouting.Proofs.Filling

/-!
# Runs of slashes

What is left of a text when every run of slashes becomes one slash.  The pass that does it from left
to right is the same as leaving out one of two neighbours as often as there are two; it works on a
text piece by piece, so a text that is continued keeps what it had.  What the pass leaves is the
normal form of the text, and it is the same if parts of the text went through the pass before.
-/

namespace PathRouting

/-! ## One of every run -/

section

variable {α β : Type} [DecidableEq α] [DecidableEq β]

/-- Leaves one element of every run of `a`. -/
def collapseRuns (a : α) : List α → List α
  | b :: c :: rest =>
      if b = a ∧ c = a then collapseRuns a (c :: rest) else b :: collapseRuns a (c :: rest)
  | rest => rest

theorem head?_collapseRuns (a b : α) (rest : List α) :
    (collapseRuns a (b :: rest)).head? = some b := by
  induction rest generalizing b with
  | nil => rfl
  | cons c rest ih =>
    by_cases run : b = a ∧ c = a
    · rw [collapseRuns, if_pos run, ih, run.1, run.2]
    · rw [collapseRuns, if_neg run, List.head?_cons]

theorem isChain_collapseRuns (a : α) (elements : List α) :
    (collapseRuns a elements).IsChain fun b c => ¬ (b = a ∧ c = a) := by
  induction elements with
  | nil => exact .nil
  | cons b rest ih =>
    cases rest with
    | nil => exact .singleton b
    | cons c rest =>
      by_cases run : b = a ∧ c = a
      · rw [collapseRuns, if_pos run]
        exact ih
      · rw [collapseRuns, if_neg run, List.isChain_cons, head?_collapseRuns]
        refine ⟨?_, ih⟩
        rintro d ⟨⟩
        exact run

/-- A run ends at every other element. -/
theorem collapseRuns_append {a : α} {front back : List α} (ends : ∀ b ∈ back.head?, b ≠ a) :
    collapseRuns a (front ++ back) = collapseRuns a front ++ collapseRuns a back := by
  induction front with
  | nil => rfl
  | cons b front ih =>
    cases front with
    | nil =>
      cases back with
      | nil => rfl
      | cons c back =>
        have apart : ¬ (b = a ∧ c = a) := fun run => ends c rfl run.2
        simp only [List.cons_append, List.nil_append, collapseRuns, if_neg apart]
    | cons c front =>
      simp only [List.cons_append] at ih ⊢
      by_cases run : b = a ∧ c = a
      · simp only [collapseRuns, if_pos run, ih]
      · simp only [collapseRuns, if_neg run, ih, List.cons_append]

theorem collapseRuns_map {f : α → β} (injective : Function.Injective f) (a : α)
    (elements : List α) :
    collapseRuns (f a) (elements.map f) = (collapseRuns a elements).map f := by
  induction elements with
  | nil => rfl
  | cons b rest ih =>
    cases rest with
    | nil => rfl
    | cons c rest =>
      rw [List.map_cons] at ih
      rw [List.map_cons, List.map_cons, collapseRuns, collapseRuns, ih]
      simp only [injective.eq_iff]
      split <;> rfl

end

/-! ## From left to right -/

theorem cons_collapseSlashes (c : Char) (chars : List Char) :
    c :: collapseSlashes (c == '/') chars = collapseRuns '/' (c :: chars) := by
  induction chars generalizing c with
  | nil => rfl
  | cons d chars ih =>
    rw [collapseRuns, ← ih, collapseSlashes]
    by_cases first : c = '/'
    · by_cases second : d = '/' <;> simp [first, second]
    · simp [first]

theorem collapseSlashes_eq_collapseRuns (chars : List Char) :
    collapseSlashes false chars = collapseRuns '/' chars := by
  cases chars with
  | nil => rfl
  | cons c chars =>
    rw [← cons_collapseSlashes, collapseSlashes, Bool.and_false]
    rfl

theorem singleSlashes_collapseSlashes (chars : List Char) :
    SingleSlashes (collapseSlashes false chars) := by
  rw [collapseSlashes_eq_collapseRuns]
  exact isChain_collapseRuns '/' chars

/-- The pass over a text goes on behind a part of it; all that it needs is whether the part ends in
a slash. -/
theorem exists_collapseSlashes_append (afterSlash : Bool) (front back : List Char) :
    ∃ slashed, collapseSlashes afterSlash (front ++ back) =
      collapseSlashes afterSlash front ++ collapseSlashes slashed back := by
  induction front generalizing afterSlash with
  | nil => exact ⟨afterSlash, rfl⟩
  | cons c front ih =>
    rw [List.cons_append, collapseSlashes, collapseSlashes]
    by_cases dropped : (c == '/' && afterSlash) = true
    · rw [if_pos dropped, if_pos dropped]
      exact ih true
    · obtain ⟨slashed, goesOn⟩ := ih (c == '/')
      rw [if_neg dropped, if_neg dropped]
      exact ⟨slashed, congrArg (c :: ·) goesOn⟩

theorem collapseSlashes_prefix_append (front back : List Char) :
    collapseSlashes false front <+: collapseSlashes false (front ++ back) := by
  obtain ⟨slashed, goesOn⟩ := exists_collapseSlashes_append false front back
  rw [goesOn]
  exact List.prefix_append _ _

/-- Two passes are one, which has a slash in front if either of them has. -/
theorem collapseSlashes_collapseSlashes (first second : Bool) (chars : List Char) :
    collapseSlashes second (collapseSlashes first chars) =
      collapseSlashes (first || second) chars := by
  induction chars generalizing first second with
  | nil => rfl
  | cons c chars ih =>
    by_cases slash : c = '/'
    · cases first <;> cases second <;> simp [collapseSlashes, slash, ih]
    · simp [collapseSlashes, slash, ih]

/-- Both parts of a text may go through the pass before, even if a run goes from one to the other.
-/
theorem collapseSlashes_append_collapseSlashes (afterSlash : Bool) (front back : List Char) :
    collapseSlashes afterSlash
        (collapseSlashes afterSlash front ++ collapseSlashes false back) =
      collapseSlashes afterSlash (front ++ back) := by
  induction front generalizing afterSlash with
  | nil => exact collapseSlashes_collapseSlashes false afterSlash back
  | cons c front ih =>
    by_cases slash : c = '/'
    · cases afterSlash <;> simp [collapseSlashes, slash, ih]
    · simp [collapseSlashes, slash, ih]

theorem collapseSlashes_double (afterSlash : Bool) (front back : List Char) :
    collapseSlashes afterSlash (front ++ '/' :: '/' :: back) =
      collapseSlashes afterSlash (front ++ '/' :: back) := by
  have same : collapseSlashes false ('/' :: '/' :: back) =
      collapseSlashes false ('/' :: back) := rfl
  rw [← collapseSlashes_append_collapseSlashes, same, collapseSlashes_append_collapseSlashes]

/-! ## A normal form -/

/-- What becomes of a text if one slash stands for every run of slashes, which goes as far as there
are slashes, and every other character is kept. -/
inductive Collapses : List Char → List Char → Prop where
  | done : Collapses [] []
  | keep {c : Char} {chars kept : List Char} (other : c ≠ '/') (rest : Collapses chars kept) :
      Collapses (c :: chars) (c :: kept)
  | run {n : Nat} {chars kept : List Char} (ends : chars.head? ≠ some '/')
      (rest : Collapses chars kept) :
      Collapses (List.replicate (n + 1) '/' ++ chars) ('/' :: kept)

variable {chars kept : List Char}

theorem collapseSlashes_replicate (n : Nat) (chars : List Char) :
    collapseSlashes true (List.replicate n '/' ++ chars) = collapseSlashes true chars := by
  induction n with
  | zero => rfl
  | succ n ih =>
    rw [List.replicate_succ, List.cons_append, collapseSlashes, ih]
    rfl

theorem collapseSlashes_of_head?_ne (ends : chars.head? ≠ some '/') :
    collapseSlashes true chars = collapseSlashes false chars := by
  cases chars with
  | nil => rfl
  | cons c chars =>
    have other : (c == '/') = false := by simpa using ends
    simp only [collapseSlashes, other, Bool.false_and]

theorem Collapses.collapseSlashes_eq (collapses : Collapses chars kept) :
    collapseSlashes false chars = kept := by
  induction collapses with
  | done => rfl
  | keep other _ ih =>
    rw [collapseSlashes, Bool.and_false, if_neg Bool.false_ne_true, beq_false_of_ne other, ih]
  | run ends _ ih =>
    rw [List.replicate_succ, List.cons_append, collapseSlashes, Bool.and_false,
      if_neg Bool.false_ne_true, beq_self_eq_true, collapseSlashes_replicate,
      collapseSlashes_of_head?_ne ends, ih]

theorem exists_collapses (chars : List Char) : ∃ kept, Collapses chars kept := by
  induction chars with
  | nil => exact ⟨[], .done⟩
  | cons c chars ih =>
    obtain ⟨kept, rest⟩ := ih
    by_cases slash : c = '/'
    · subst slash
      cases rest with
      | done => exact ⟨['/'], .run (n := 0) nofun .done⟩
      | keep other rest => exact ⟨_, .run (n := 0) (by simpa using other) (.keep other rest)⟩
      | @run n _ kept ends rest => exact ⟨'/' :: kept, .run (n := n + 1) ends rest⟩
    · exact ⟨c :: kept, .keep slash rest⟩

theorem collapses_iff : Collapses chars kept ↔ collapseSlashes false chars = kept := by
  constructor
  · exact Collapses.collapseSlashes_eq
  · rintro rfl
    obtain ⟨kept, collapses⟩ := exists_collapses chars
    rwa [collapses.collapseSlashes_eq]

theorem collapseSlashes_eq_self_iff :
    collapseSlashes false chars = chars ↔ SingleSlashes chars := by
  constructor
  · intro same
    rw [← same]
    exact singleSlashes_collapseSlashes chars
  · intro single
    have kept := @collapseSlashes_append [] chars single []
    rwa [List.append_nil, collapseSlashes, List.append_nil] at kept

/-- The pass leaves no two slashes next to each other: it puts one slash for every run and keeps all
else.  So it changes exactly the texts that have two slashes in a row, and a second pass changes
nothing.  Of a text in two parts it leaves the same as if it had gone over each part before, and
what it leaves of the first part stands in front. -/
theorem collapseSlashes_normalizes :
    (∀ chars, SingleSlashes (collapseSlashes false chars) ∧
      (∀ kept, Collapses chars kept ↔ collapseSlashes false chars = kept) ∧
      (collapseSlashes false chars = chars ↔ SingleSlashes chars) ∧
      collapseSlashes false (collapseSlashes false chars) = collapseSlashes false chars) ∧
    ∀ front back,
      collapseSlashes false (front ++ back) =
        collapseSlashes false (collapseSlashes false front ++ collapseSlashes false back) ∧
      collapseSlashes false front <+: collapseSlashes false (front ++ back) := by
  refine ⟨fun chars => ⟨?_, fun kept => ?_, ?_, ?_⟩, fun front back => ⟨?_, ?_⟩⟩
  · exact singleSlashes_collapseSlashes chars
  · exact collapses_iff
  · exact collapseSlashes_eq_self_iff
  · exact collapseSlashes_collapseSlashes false false chars
  · exact (collapseSlashes_append_collapseSlashes false front back).symm
  · exact collapseSlashes_prefix_append front back

end PathRouting
