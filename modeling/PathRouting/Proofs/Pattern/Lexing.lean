import PathRouting.Proofs.Pattern.Spelling

/-!
# How a pattern is cut

The marks of some characters are spelled by them, and they are the only normal list of marks with
the spelling that writes every slash and every question mark.  Both follow from five equations, one
for each way in which a mark begins.
-/

namespace PathRouting.Pattern

open PathRouting.Text

/-! ## Five equations -/

/-- Puts one character of plain text in front of marks. -/
def frontText (c : Char) : List Mark → List Mark
  | .text chars :: rest => .text (c :: chars) :: rest
  | rest => .text [c] :: rest

theorem frontText_of_separate (c : Char) {ms : List Mark}
    (separate : ∀ m ∈ ms.head?, m.isText = false) : frontText c ms = .text [c] :: ms := by
  match ms, separate with
  | [], _ => rfl
  | .text chars :: _, separate => cases separate (.text chars) rfl
  | .token _ _ :: _, _ => rfl
  | .opening :: _, _ => rfl
  | .closing :: _, _ => rfl

theorem exists_text_of_not_separate {ms : List Mark}
    (close : ¬ ∀ m ∈ ms.head?, m.isText = false) : ∃ chars later, ms = .text chars :: later := by
  match ms, close with
  | [], close => exact absurd nofun close
  | .text chars :: later, _ => exact ⟨chars, later, rfl⟩
  | .token _ _ :: _, close => exact absurd (by simp [Mark.isText]) close
  | .opening :: _, close => exact absurd (by simp [Mark.isText]) close
  | .closing :: _, close => exact absurd (by simp [Mark.isText]) close

theorem map_mark_consText (start : Nat) (c : Char) (lexemes : List Lexeme) :
    (Lexeme.consText start c lexemes).map (·.mark) = frontText c (lexemes.map (·.mark)) := by
  cases lexemes with
  | nil => rfl
  | cons lexeme rest =>
    obtain ⟨start', mark⟩ := lexeme
    cases mark <;> rfl

theorem map_mark_scan (chars : List Char) :
    ∀ start start' skip, (Lexeme.scan start skip chars).map (·.mark) =
      (Lexeme.scan start' 0 (chars.drop skip)).map (·.mark) := by
  induction chars with
  | nil =>
    intro start start' skip
    rw [List.drop_nil, Lexeme.scan, Lexeme.scan]
  | cons c chars ih =>
    intro start start' skip
    have same (skip : Nat) : (Lexeme.scan (start + c.utf8Size) skip chars).map (·.mark) =
        (Lexeme.scan (start' + c.utf8Size) skip chars).map (·.mark) :=
      (ih _ 0 skip).trans (ih _ 0 skip).symm
    cases skip with
    | succ skip => rw [Lexeme.scan, List.drop_succ_cons, ih]
    | zero =>
      rw [List.drop_zero]
      simp only [Lexeme.scan]
      split_ifs
      · simp only [List.map_cons, same]
      · simp only [List.map_cons, same]
      · split
        · simp only [List.map_cons, same]
        · simp only [map_mark_consText, same]
      · simp only [map_mark_consText, same]

def marks (chars : List Char) : List Mark :=
  (Lexeme.scan 0 0 chars).map (·.mark)

theorem map_mark_scan_eq (start skip : Nat) (chars : List Char) :
    (Lexeme.scan start skip chars).map (·.mark) = marks (chars.drop skip) :=
  map_mark_scan chars start 0 skip

section

variable {chars : List Char}

@[simp] theorem marks_nil : marks [] = [] := rfl

theorem marks_opening : marks ('(' :: chars) = .opening :: marks chars := by
  rw [marks]
  simp [Lexeme.scan, map_mark_scan_eq]

theorem marks_closing : marks (')' :: chars) =
    .closing :: marks (chars.drop (Lexeme.startsWith '?' chars).toNat) := by
  rw [marks]
  simp [Lexeme.scan, map_mark_scan_eq]

theorem marks_token {name : List Char} {optional : Bool} {width : Nat}
    (token : Lexeme.token? chars = some (name, optional, width)) :
    marks (':' :: chars) = .token name optional :: marks (chars.drop width) := by
  rw [marks]
  simp [Lexeme.scan, token, map_mark_scan_eq]

theorem token?_eq_none_iff :
    Lexeme.token? chars = none ↔ ∀ c ∈ chars.head?, isWordChar c = false := by
  cases chars with
  | nil => simp [Lexeme.token?]
  | cons c chars => cases word : isWordChar c <;> simp [Lexeme.token?, word]

theorem marks_text {c : Char} (notOpening : c ≠ '(') (notClosing : c ≠ ')')
    (noToken : c = ':' → ∀ d ∈ chars.head?, isWordChar d = false) :
    marks (c :: chars) = frontText c (marks chars) := by
  rw [marks]
  by_cases colon : c = ':'
  · have none := token?_eq_none_iff.mpr (noToken colon)
    simp [Lexeme.scan, colon, none, map_mark_consText, map_mark_scan_eq]
  · simp [Lexeme.scan, notOpening, notClosing, colon, map_mark_consText, map_mark_scan_eq]

end

/-- Characters are cut from the left: a mark that is no text with what it takes, text one character
at a time. -/
@[elab_as_elim]
theorem markInduction {motive : List Char → Prop} (nil : motive [])
    (opening : ∀ chars, motive chars → motive ('(' :: chars))
    (closing : ∀ chars, motive (chars.drop (Lexeme.startsWith '?' chars).toNat) →
      motive (')' :: chars))
    (token : ∀ chars name optional width, Lexeme.token? chars = some (name, optional, width) →
      motive (chars.drop width) → motive (':' :: chars))
    (text : ∀ c chars, c ≠ '(' → c ≠ ')' → (c = ':' → Lexeme.token? chars = none) →
      motive chars → motive (c :: chars)) :
    ∀ chars, motive chars := by
  intro chars
  induction size : chars.length using Nat.strong_induction_on generalizing chars with
  | h n ih =>
    subst size
    cases chars with
    | nil => exact nil
    | cons c chars =>
      have behind (skip : Nat) : motive (chars.drop skip) := by
        apply ih _ _ _ rfl
        rw [List.length_cons, List.length_drop]
        omega
      by_cases isOpening : c = '('
      · subst isOpening
        exact opening chars (behind 0)
      · by_cases isClosing : c = ')'
        · subst isClosing
          exact closing chars (behind _)
        · cases found : Lexeme.token? chars with
          | none => exact text c chars isOpening isClosing (fun _ => found) (behind 0)
          | some taken =>
            by_cases colon : c = ':'
            · subst colon
              exact token chars _ _ _ found (behind _)
            · exact text c chars isOpening isClosing (fun same => absurd same colon) (behind 0)

/-! ## Characters that may be written -/

section

variable {name chars : List Char} {optional : Bool} {width : Nat}

theorem optionally_append_drop (c : Char) (chars : List Char) :
    optionally c (Lexeme.startsWith c chars) ++
      chars.drop (Lexeme.startsWith c chars).toNat = chars := by
  cases chars with
  | nil => rfl
  | cons d chars =>
    by_cases same : c = d
    · simp [Lexeme.startsWith, same, optionally]
    · simp [Lexeme.startsWith, beq_false_of_ne same, optionally]

theorem spelled_of_token? (token : Lexeme.token? chars = some (name, optional, width)) :
    (∃ slashed, ':' :: chars = (Mark.token name optional).spelling slashed ++ chars.drop width) ∧
      (Mark.token name optional).Normal := by
  have word : ∀ c ∈ chars.takeWhile isWordChar, isWordChar c = true :=
    List.all_eq_true.mp List.all_takeWhile
  have split := List.prefix_iff_eq_append.mp (List.takeWhile_prefix isWordChar (l := chars))
  unfold Lexeme.token? at token
  generalize chars.takeWhile isWordChar = taken at token word split
  cases taken with
  | nil => cases token
  | cons first more =>
    simp only [Option.some.injEq, Prod.mk.injEq] at token
    obtain ⟨rfl, rfl, rfl⟩ := token
    generalize chars.drop (first :: more).length = behind at split ⊢
    have marked := optionally_append_drop '?' behind
    have slashed := optionally_append_drop '/' (behind.drop (Lexeme.startsWith '?' behind).toNat)
    have dropped (m n : Nat) : chars.drop ((first :: more).length + m + n) =
        (behind.drop m).drop n := by
      rw [← split, List.drop_drop, Nat.add_assoc, List.drop_length_add_append]
    refine ⟨⟨Lexeme.startsWith '/' (behind.drop (Lexeme.startsWith '?' behind).toNat), ?_⟩,
      List.cons_ne_nil first more, word⟩
    rw [dropped, Mark.spelling, List.cons_append, List.append_assoc, List.append_assoc, slashed,
      marked, split]

theorem token?_spelling (normal : (Mark.token name optional).Normal) (rest : List Char) :
    ∃ width, Lexeme.token? (name ++ (optionally '?' optional ++ '/' :: rest)) =
        some (name, optional, width) ∧
      (name ++ (optionally '?' optional ++ '/' :: rest)).drop width = rest := by
  have stops : (optionally '?' optional ++ '/' :: rest).takeWhile isWordChar = [] := by
    cases optional <;> rfl
  have taken : (name ++ (optionally '?' optional ++ '/' :: rest)).takeWhile isWordChar = name := by
    rw [List.takeWhile_append_of_pos normal.2, stops, List.append_nil]
  obtain ⟨first, more, rfl⟩ := List.exists_cons_of_ne_nil normal.1
  refine ⟨(first :: more).length + (optional.toNat + 1), ?_, ?_⟩
  · rw [Lexeme.token?, taken]
    cases optional <;> simp [optionally, Lexeme.startsWith]
  · rw [List.drop_length_add_append]
    cases optional <;> rfl

end

/-! ## From characters to marks -/

/-- The characters spell the marks, which are normal. -/
structure Lexes (chars : List Char) (marks : List Mark) : Prop where
  written : Written Mark.Spells marks chars
  normal : ∀ m ∈ marks, m.Normal
  apart : marks.IsChain Mark.Apart

namespace Lexes

variable {chars rest : List Char} {ms : List Mark}

theorem nil : Lexes [] [] := ⟨.nil, nofun, .nil⟩

theorem cons {m : Mark} (lexes : Lexes rest ms) (spells : m.Spells chars) (normal : m.Normal)
    (other : m.isText = false) : Lexes (chars ++ rest) (m :: ms) where
  written := .cons spells lexes.written
  normal := List.forall_mem_cons.mpr ⟨normal, lexes.normal⟩
  apart := List.isChain_cons.mpr ⟨fun n _ => Mark.apart_of_left other n, lexes.apart⟩

theorem front {c : Char} (lexes : Lexes chars ms) (notOpening : c ≠ '(') (notClosing : c ≠ ')')
    (noToken : c = ':' → ∀ d ∈ chars.head?, isWordChar d = false) :
    Lexes (c :: chars) (frontText c ms) := by
  by_cases separate : ∀ m ∈ ms.head?, m.isText = false
  · rw [frontText_of_separate c separate]
    show Lexes ([c] ++ chars) (.text [c] :: ms)
    refine ⟨.cons ⟨false, rfl⟩ lexes.written, ?_, ?_⟩
    · refine List.forall_mem_cons.mpr ⟨⟨List.cons_ne_nil c [], ?_, ?_, .singleton c⟩, lexes.normal⟩
      · simpa using notOpening.symm
      · simpa using notClosing.symm
    · exact List.isChain_cons.mpr
        ⟨fun m first => Mark.apart_of_right (separate m first) _, lexes.apart⟩
  · obtain ⟨more, later, rfl⟩ := exists_text_of_not_separate separate
    obtain ⟨written, normal, apart⟩ := lexes
    obtain ⟨front, back, rfl, ⟨slashed, same⟩, behind⟩ := written_cons_iff.mp written
    obtain rfl : more = front := same.symm
    obtain ⟨⟨nonempty, noOpening, noClosing, plain⟩, normal⟩ := List.forall_mem_cons.mp normal
    show Lexes ((c :: more) ++ back) (.text (c :: more) :: later)
    refine ⟨.cons ⟨false, rfl⟩ behind, ?_, ?_⟩
    · refine List.forall_mem_cons.mpr ⟨⟨List.cons_ne_nil c more, ?_, ?_, ?_⟩, normal⟩
      · simpa [notOpening.symm] using noOpening
      · simpa [notClosing.symm] using noClosing
      · refine List.isChain_cons.mpr ⟨fun d first colon => ?_, plain⟩
        exact noToken colon d (by simp [Option.mem_def.mp first])
    · rw [List.isChain_cons] at apart ⊢
      exact apart

end Lexes

theorem lexes_marks (chars : List Char) : Lexes chars (marks chars) := by
  -- A mark may take several characters, so the induction is on their number.
  induction size : chars.length using Nat.strong_induction_on generalizing chars with
  | h n ih =>
    subst size
    cases chars with
    | nil => exact .nil
    | cons c chars =>
      have behind (skip : Nat) : Lexes (chars.drop skip) (marks (chars.drop skip)) :=
        ih _ (by rw [List.length_cons, List.length_drop]; omega) _ rfl
      by_cases opening : c = '('
      · subst opening
        rw [marks_opening]
        exact (behind 0).cons (m := .opening) ⟨false, rfl⟩ trivial rfl
      · by_cases closing : c = ')'
        · subst closing
          have lexes := (behind (Lexeme.startsWith '?' chars).toNat).cons (m := .closing)
            ⟨Lexeme.startsWith '?' chars, rfl⟩ trivial rfl
          rw [Mark.spelling, List.cons_append, optionally_append_drop] at lexes
          rwa [marks_closing]
        · by_cases token : c = ':' ∧ (Lexeme.token? chars).isSome
          · obtain ⟨rfl, isSome⟩ := token
            obtain ⟨⟨name, optional, width⟩, token⟩ := Option.isSome_iff_exists.mp isSome
            obtain ⟨⟨slashed, spelled⟩, normal⟩ := spelled_of_token? token
            rw [marks_token token, spelled]
            exact (behind width).cons ⟨slashed, rfl⟩ normal rfl
          · have noToken : c = ':' → ∀ d ∈ chars.head?, isWordChar d = false := by
              intro colon
              rw [← token?_eq_none_iff, ← Option.not_isSome_iff_eq_none]
              exact fun isSome => token ⟨colon, isSome⟩
            rw [marks_text opening closing noToken]
            exact (behind 0).front opening closing noToken

/-! ## From marks to characters -/

section

variable {chars tail : List Char} {ms : List Mark}

theorem marks_text_append (nonempty : chars ≠ []) (plain : Plain chars)
    (stops : ∀ d ∈ tail.head?, isWordChar d = false)
    (separate : ∀ m ∈ (marks tail).head?, m.isText = false) :
    marks (chars ++ tail) = .text chars :: marks tail := by
  induction chars with
  | nil => exact absurd rfl nonempty
  | cons c chars ih =>
    obtain ⟨noOpening, noClosing, noToken⟩ := plain
    rw [List.mem_cons, not_or] at noOpening noClosing
    rw [List.isChain_cons] at noToken
    have next : c = ':' → ∀ d ∈ (chars ++ tail).head?, isWordChar d = false := by
      intro colon d first
      cases chars with
      | nil => exact stops d first
      | cons e chars => exact noToken.1 d first colon
    rw [List.cons_append, marks_text (Ne.symm noOpening.1) (Ne.symm noClosing.1) next]
    cases chars with
    | nil =>
      exact frontText_of_separate c separate
    | cons e chars =>
      rw [ih (List.cons_ne_nil e chars) ⟨noOpening.2, noClosing.2, noToken.2⟩, frontText]

theorem exists_head_spelling {m : Mark} (other : m.isText = false) (trailed : Bool) :
    ∃ d more, m.spelling trailed = d :: more ∧ isWordChar d = false := by
  cases m with
  | text chars => cases other
  | token name optional => exact ⟨_, _, rfl, rfl⟩
  | opening => exact ⟨_, _, rfl, rfl⟩
  | closing => exact ⟨_, _, rfl, rfl⟩

theorem marks_flatMap_spelling (normal : ∀ m ∈ ms, m.Normal) (apart : ms.IsChain Mark.Apart) :
    marks (ms.flatMap (Mark.spelling true)) = ms := by
  induction ms with
  | nil => rfl
  | cons m ms ih =>
    obtain ⟨normalHead, normal⟩ := List.forall_mem_cons.mp normal
    obtain ⟨apartHead, apart⟩ := List.isChain_cons.mp apart
    have ih := ih normal apart
    rw [List.flatMap_cons]
    cases m with
    | text chars =>
      have separate : ∀ n ∈ ms.head?, n.isText = false := by
        intro n first
        simpa [Mark.Apart, Mark.isText] using apartHead n first
      have stops : ∀ d ∈ (ms.flatMap (Mark.spelling true)).head?, isWordChar d = false := by
        cases ms with
        | nil => simp
        | cons n ms =>
          obtain ⟨d, more, spelled, other⟩ := exists_head_spelling (separate n rfl) true
          simp [spelled, other]
      rw [Mark.spelling, marks_text_append normalHead.1 normalHead.2 stops (by rwa [ih]), ih]
    | token name optional =>
      generalize ms.flatMap (Mark.spelling true) = tail at ih ⊢
      have spelled : (Mark.token name optional).spelling true ++ tail =
          ':' :: (name ++ (optionally '?' optional ++ '/' :: tail)) := by
        simp [Mark.spelling, optionally]
      obtain ⟨width, token, behind⟩ := token?_spelling normalHead tail
      rw [spelled, marks_token token, behind, ih]
    | opening => rw [Mark.spelling, List.singleton_append, marks_opening, ih]
    | closing =>
      rw [Mark.spelling, List.cons_append, marks_closing]
      simp [optionally, Lexeme.startsWith, ih]

end

end PathRouting.Pattern
