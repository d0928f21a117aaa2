import PathRouting.Proofs.Parsing
import PathRouting.Proofs.Pattern.Parentheses

/-!
# Which patterns are refused

Four checks are made one after the other, and a pattern is refused with the error of the first that
fails: on the length, on the parentheses alone, on the number of tokens and on their names.  The
tokens are those that a pattern declares by its colons, wherever they stand.
-/

namespace PathRouting.Pattern

open PathRouting.Text

/-! ## Declared names -/

/-- The names that characters declare: behind each colon the longest run of word characters, if
there is one. -/
def declaredNames : List Char → List String
  | [] => []
  | c :: chars =>
      if c = ':' ∧ chars.takeWhile isWordChar ≠ [] then
        String.ofList (chars.takeWhile isWordChar) :: declaredNames chars
      else declaredNames chars

/-- The name that a mark declares. -/
def Mark.name? : Mark → Option String
  | token name _ => some (String.ofList name)
  | _ => none

section

variable {chars : List Char}

theorem declaredNames_cons_of_ne {c : Char} (other : c ≠ ':') :
    declaredNames (c :: chars) = declaredNames chars := by
  rw [declaredNames, if_neg fun declares => other declares.1]

theorem declaredNames_drop {skip : Nat} (noColon : ':' ∉ chars.take skip) :
    declaredNames (chars.drop skip) = declaredNames chars := by
  induction chars generalizing skip with
  | nil => rw [List.drop_nil]
  | cons c chars ih =>
    cases skip with
    | zero => rfl
    | succ skip =>
      rw [List.take_succ_cons, List.mem_cons, not_or] at noColon
      rw [List.drop_succ_cons, ih noColon.2, declaredNames_cons_of_ne (Ne.symm noColon.1)]

theorem filterMap_name?_frontText (c : Char) (ms : List Mark) :
    (frontText c ms).filterMap Mark.name? = ms.filterMap Mark.name? := by
  by_cases separate : ∀ m ∈ ms.head?, m.isText = false
  · rw [frontText_of_separate c separate]
    rfl
  · obtain ⟨more, later, rfl⟩ := exists_text_of_not_separate separate
    rfl

theorem filterMap_name?_marks (chars : List Char) :
    (marks chars).filterMap Mark.name? = declaredNames chars := by
  induction chars using markInduction with
  | nil => rfl
  | opening chars ih =>
    rw [marks_opening, List.filterMap_cons_none rfl, ih, declaredNames_cons_of_ne (by decide)]
  | closing chars ih =>
    rw [marks_closing, List.filterMap_cons_none rfl, ih, declaredNames_cons_of_ne (by decide),
      declaredNames_drop (not_mem_take_startsWith (by decide) chars)]
  | token chars name optional width token ih =>
    obtain ⟨name_eq, nonempty, -, -⟩ := Lexeme.of_token? token
    have noColon := not_mem_take_of_token? token (c := ':') rfl (by decide) (by decide)
    have declares : Mark.name? (.token name optional) = some (String.ofList name) := rfl
    rw [marks_token token, List.filterMap_cons_some declares, ih, declaredNames_drop noColon,
      declaredNames, ← name_eq, if_pos ⟨rfl, nonempty⟩]
  | text c chars notOpening notClosing noToken ih =>
    have plain : c = ':' → ∀ d ∈ chars.head?, isWordChar d = false :=
      fun colon => token?_eq_none_iff.mp (noToken colon)
    have undeclared : ¬ (c = ':' ∧ chars.takeWhile isWordChar ≠ []) := by
      rintro ⟨colon, named⟩
      cases chars with
      | nil => exact named rfl
      | cons d chars =>
        apply named
        exact List.takeWhile_cons_of_neg (by simp [plain colon d rfl])
    rw [marks_text notOpening notClosing plain, filterMap_name?_frontText, ih, declaredNames,
      if_neg undeclared]

theorem filterMap_name?_map_mark (body : List Piece) :
    (body.map Piece.mark).filterMap Mark.name? = body.flatMap Piece.names := by
  induction body with
  | nil => rfl
  | cons p body ih =>
    cases p with
    | literal text => exact ih
    | token name optional => simp [Piece.mark, Mark.name?, Piece.names, ih]

theorem filterMap_name?_flatMap_marks (segments : List Segment) :
    (segments.flatMap Segment.marks).filterMap Mark.name? = tokenNames segments := by
  induction segments with
  | nil => rfl
  | cons s segments ih =>
    rw [List.flatMap_cons, List.filterMap_append, ih, tokenNames_cons]
    cases s with
    | piece p =>
      cases p <;> simp [Segment.marks, Piece.mark, Mark.name?, Segment.names, Piece.names]
    | group body =>
      rw [Segment.marks, List.filterMap_cons_none rfl, List.filterMap_append,
        filterMap_name?_map_mark]
      simp [Mark.name?, Segment.names]

end

theorem tokenNames_of_gather {pattern : String} {segments : List Segment}
    (gathered : gather pattern none (lexemes pattern) = .ok segments) :
    tokenNames segments = declaredNames pattern.toList := by
  have same : marks pattern.toList = segments.flatMap Segment.marks :=
    (gather_eq_ok_iff.mp gathered).1
  rw [← filterMap_name?_flatMap_marks, ← same, filterMap_name?_marks]

/-! ## Repeated names -/

/-- The name is the first that repeats an earlier one. -/
def FirstRepeated (name : String) (names : List String) : Prop :=
  ∃ earlier later, names = earlier ++ name :: later ∧ earlier.Nodup ∧ name ∈ earlier

theorem firstRepeated?_eq_some_iff {seen names : List String} {name : String} :
    firstRepeated? seen names = some name ↔
      ∃ earlier later, names = earlier ++ name :: later ∧ earlier.Nodup ∧
        (∀ other ∈ earlier, other ∉ seen) ∧ (name ∈ earlier ∨ name ∈ seen) := by
  induction names generalizing seen with
  | nil => simp [firstRepeated?]
  | cons first names ih =>
    by_cases repeated : first ∈ seen
    · rw [firstRepeated?, if_pos repeated, Option.some.injEq]
      constructor
      · rintro rfl
        exact ⟨[], names, rfl, .nil, List.forall_mem_nil _, .inr repeated⟩
      · rintro ⟨earlier, later, split, -, new, -⟩
        cases earlier with
        | nil => exact (List.cons.inj split).1
        | cons other earlier =>
          obtain ⟨rfl, -⟩ := List.cons.inj split
          exact absurd repeated (new first List.mem_cons_self)
    · rw [firstRepeated?, if_neg repeated, ih]
      constructor
      · rintro ⟨earlier, later, rfl, distinct, new, found⟩
        refine ⟨first :: earlier, later, rfl, ?_, ?_, ?_⟩
        · exact List.nodup_cons.mpr ⟨fun inside => new first inside List.mem_cons_self, distinct⟩
        · intro other inside
          rcases List.mem_cons.mp inside with rfl | inside
          · exact repeated
          · exact fun member => new other inside (List.mem_cons_of_mem first member)
        · simpa [or_assoc, or_comm, or_left_comm] using found
      · rintro ⟨earlier, later, split, distinct, new, found⟩
        cases earlier with
        | nil =>
          obtain ⟨rfl, -⟩ := List.cons.inj split
          simp [repeated] at found
        | cons other earlier =>
          obtain ⟨rfl, rfl⟩ := List.cons.inj split
          obtain ⟨fresh, distinct⟩ := List.nodup_cons.mp distinct
          refine ⟨earlier, later, rfl, distinct, ?_, ?_⟩
          · intro name inside member
            rcases List.mem_cons.mp member with rfl | member
            · exact fresh inside
            · exact new name (List.mem_cons_of_mem first inside) member
          · simpa [or_assoc, or_comm, or_left_comm] using found

theorem firstRepeated_iff {names : List String} {name : String} :
    firstRepeated? [] names = some name ↔ FirstRepeated name names := by
  simp [firstRepeated?_eq_some_iff, FirstRepeated]

/-! ## Checks -/

/-- The checks on a pattern. -/
inductive Check where
  | length
  | parentheses
  | count
  | names

def Check.order : List Check := [.length, .parentheses, .count, .names]

/-- Why a check refuses a pattern, whatever the other checks say of it. -/
inductive Check.Refuses (pattern : String) : Check → PatternError → Prop where
  | tooLong (long : 4096 < pattern.utf8ByteSize) :
      Refuses pattern .length (.tooLong pattern.utf8ByteSize)
  | unpaired {e : PatternError} (fault : parenFault? pattern none 0 (utf8 pattern) = some e) :
      Refuses pattern .parentheses e
  | tooMany (many : 64 < (declaredNames pattern.toList).length) :
      Refuses pattern .count (.tooManyTokens (declaredNames pattern.toList).length)
  | repeated {name : String} (repeats : FirstRepeated name (declaredNames pattern.toList)) :
      Refuses pattern .names (.duplicateToken pattern name)

/-- The error of the first check that refuses the pattern. -/
def Refused (pattern : String) (e : PatternError) : Prop :=
  FirstRefusal (Check.Refuses pattern) Check.order e

section

variable {pattern : String} {e : PatternError}

theorem length_refuses_iff : Check.length.Refuses pattern e ↔
    4096 < pattern.utf8ByteSize ∧ e = .tooLong pattern.utf8ByteSize := by
  constructor
  · intro refuses
    cases refuses with
    | tooLong long => exact ⟨long, rfl⟩
  · rintro ⟨long, rfl⟩
    exact .tooLong long

theorem parentheses_refuses_iff : Check.parentheses.Refuses pattern e ↔
    parenFault? pattern none 0 (utf8 pattern) = some e := by
  constructor
  · intro refuses
    cases refuses with
    | unpaired fault => exact fault
  · exact .unpaired

theorem count_refuses_iff : Check.count.Refuses pattern e ↔
    64 < (declaredNames pattern.toList).length ∧
      e = .tooManyTokens (declaredNames pattern.toList).length := by
  constructor
  · intro refuses
    cases refuses with
    | tooMany many => exact ⟨many, rfl⟩
  · rintro ⟨many, rfl⟩
    exact .tooMany many

theorem names_refuses_iff : Check.names.Refuses pattern e ↔
    ∃ name, FirstRepeated name (declaredNames pattern.toList) ∧
      e = .duplicateToken pattern name := by
  constructor
  · intro refuses
    cases refuses with
    | repeated repeats => exact ⟨_, repeats, rfl⟩
  · rintro ⟨name, repeats, rfl⟩
    exact .repeated repeats

theorem checkLength_eq_error_iff :
    checkLength pattern = .error e ↔ FirstRefusal (Check.Refuses pattern) [.length] e := by
  rw [firstRefusal_singleton_iff, length_refuses_iff]
  unfold checkLength
  split
  · case isTrue short => exact iff_of_false nofun fun long => Nat.not_le.mpr long.1 short
  · case isFalse long =>
    have long : 4096 < pattern.utf8ByteSize := Nat.lt_of_not_le long
    simp [long, eq_comm]

theorem gather_eq_error_iff : gather pattern none (lexemes pattern) = .error e ↔
    FirstRefusal (Check.Refuses pattern) [.parentheses] e := by
  rw [firstRefusal_singleton_iff, parentheses_refuses_iff, gather_lexemes_eq_error_iff]

theorem checkTokens_eq_error_iff {segments : List Segment}
    (gathered : gather pattern none (lexemes pattern) = .ok segments) :
    checkTokens pattern segments = .error e ↔
      FirstRefusal (Check.Refuses pattern) [.count, .names] e := by
  rw [firstRefusal_cons_iff, firstRefusal_singleton_iff, names_refuses_iff]
  simp only [count_refuses_iff, checkTokens, tokenNames_of_gather gathered, ← firstRepeated_iff]
  split
  · case isTrue many =>
    have many : 64 < (declaredNames pattern.toList).length := many
    simp [many, eq_comm]
  · case isFalse few =>
    have few : ¬ 64 < (declaredNames pattern.toList).length := few
    cases firstRepeated? [] (declaredNames pattern.toList) <;> simp [few, eq_comm]

theorem parse_eq_error_iff : parse pattern = .error e ↔ Refused pattern e := by
  refine bind_eq_error_iff_firstRefusal (fun e => checkLength_eq_error_iff) fun _ _ => ?_
  refine bind_eq_error_iff_firstRefusal (fun e => gather_eq_error_iff) fun segments gathered => ?_
  rw [bind_pure_eq_error_iff]
  exact checkTokens_eq_error_iff gathered

theorem refused_tooLong_iff {length : Nat} : Refused pattern (.tooLong length) ↔
    4096 < pattern.utf8ByteSize ∧ length = pattern.utf8ByteSize := by
  simp only [Refused, Check.order, firstRefusal_cons_iff, length_refuses_iff,
    parentheses_refuses_iff, count_refuses_iff, names_refuses_iff, parenFault?_ne_tooLong]
  simp

end

/-! ## The documented error -/

/-- A pattern is refused with the error of the first check that refuses it, and read if none does.
Only the first check is about the length, so it decides alone whether a pattern is too long. -/
theorem parse_refuses_in_order (pattern : String) :
    (∀ length, parse pattern = .error (.tooLong length) ↔
      4096 < pattern.utf8ByteSize ∧ length = pattern.utf8ByteSize) ∧
    (∀ e, parse pattern = .error e ↔ Refused pattern e) ∧
    ((∃ segments, parse pattern = .ok segments) ↔
      ∀ check e, ¬ Check.Refuses pattern check e) := by
  refine ⟨fun length => parse_eq_error_iff.trans refused_tooLong_iff,
    fun e => parse_eq_error_iff, ?_⟩
  simp only [exists_ok_iff, ne_eq, parse_eq_error_iff, Refused, forall_not_firstRefusal_iff]
  constructor
  · intro passes check
    exact passes check (by cases check <;> simp [Check.order])
  · intro passes check _
    exact passes check

-- The group that stays open is the fault, at its byte, although a name is repeated in it.
example : parse "é(:a?/)?(b:a" = .error (.unbalanced "é(:a?/)?(b:a" 9) := by rfl

end PathRouting.Pattern
