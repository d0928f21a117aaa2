import PathRouting.Proofs.Pattern.Offsets

/-!
# Parentheses of a pattern

Whether groups are well formed is decided by the parentheses of a pattern and the bytes they stand
at.  Nothing between them matters: no token, question mark or slash takes a parenthesis or makes
one, and a group is empty exactly if its two parentheses are neighbours.
-/

namespace PathRouting.Pattern

open PathRouting.Text

/-! ## Faults of parentheses -/

/-- The first fault of the parentheses among bytes that begin at byte `i` of a pattern.  `opened` is
the byte of the parenthesis that is open in front of them. -/
def parenFault? (pattern : String) : Option Nat → Nat → List UInt8 → Option PatternError
  | none, _, [] => none
  | some start, _, [] => some (.unbalanced pattern start)
  | opened, i, b :: bytes =>
      if b = '('.toUInt8 then
        match opened with
        | some _ => some (.nestedGroup pattern i)
        | none => parenFault? pattern (some i) (i + 1) bytes
      else if b = ')'.toUInt8 then
        match opened with
        | none => some (.unbalanced pattern i)
        | some start =>
            if i = start + 1 then some (.emptyGroup pattern start)
            else parenFault? pattern none (i + 1) bytes
      else parenFault? pattern opened (i + 1) bytes

section

variable {pattern : String} {opened : Option Nat} {i : Nat} {bytes rest : List UInt8}

theorem parenFault?_opening : parenFault? pattern opened i ('('.toUInt8 :: bytes) =
    match opened with
    | some _ => some (.nestedGroup pattern i)
    | none => parenFault? pattern (some i) (i + 1) bytes := by
  cases opened <;> rfl

theorem parenFault?_closing : parenFault? pattern opened i (')'.toUInt8 :: bytes) =
    match opened with
    | none => some (.unbalanced pattern i)
    | some start =>
        if i = start + 1 then some (.emptyGroup pattern start)
        else parenFault? pattern none (i + 1) bytes := by
  cases opened <;> rfl

theorem parenFault?_append (noOpening : '('.toUInt8 ∉ bytes) (noClosing : ')'.toUInt8 ∉ bytes) :
    parenFault? pattern opened i (bytes ++ rest) =
      parenFault? pattern opened (i + bytes.length) rest := by
  induction bytes generalizing i with
  | nil => rfl
  | cons b bytes ih =>
    rw [List.mem_cons, not_or] at noOpening noClosing
    have step : parenFault? pattern opened i (b :: (bytes ++ rest)) =
        parenFault? pattern opened (i + 1) (bytes ++ rest) := by
      cases opened <;>
        rw [parenFault?, if_neg (Ne.symm noOpening.1), if_neg (Ne.symm noClosing.1)]
    rw [List.cons_append, step, ih noOpening.2 noClosing.2, List.length_cons]
    congr 1
    omega

theorem parenFault?_drop {chars : List Char} {skip : Nat} (noOpening : '(' ∉ chars.take skip)
    (noClosing : ')' ∉ chars.take skip) :
    parenFault? pattern opened i (encode chars) =
      parenFault? pattern opened (i + (encode (chars.take skip)).length)
        (encode (chars.drop skip)) := by
  have split : encode chars = encode (chars.take skip) ++ encode (chars.drop skip) := by
    rw [← encode_append, List.take_append_drop]
  rw [split]
  apply parenFault?_append
  · rwa [toUInt8_mem_encode_iff (by decide)]
  · rwa [toUInt8_mem_encode_iff (by decide)]

end

theorem not_mem_take_startsWith {c mark : Char} (other : c ≠ mark) (chars : List Char) :
    c ∉ chars.take (Lexeme.startsWith mark chars).toNat := by
  cases chars with
  | nil => simp
  | cons d chars =>
    by_cases same : mark = d
    · simpa [Lexeme.startsWith, same] using same ▸ other
    · simp [Lexeme.startsWith, beq_false_of_ne same]

theorem not_mem_take_of_token? {chars name : List Char} {optional : Bool} {width : Nat}
    (token : Lexeme.token? chars = some (name, optional, width)) {c : Char}
    (other : isWordChar c = false) (notMark : c ≠ '?') (notSlash : c ≠ '/') :
    c ∉ chars.take width := by
  obtain ⟨⟨slashed, spelled⟩, -, word⟩ := spelled_of_token? token
  have taken : chars.take width = name ++ (optionally '?' optional ++ optionally '/' slashed) := by
    have split := (List.take_append_drop width chars).trans (List.cons.inj spelled).2
    exact List.append_cancel_right split
  rw [taken, List.mem_append, List.mem_append]
  rintro (inside | marked | slash)
  · rw [word c inside] at other
    cases other
  · cases optional <;> simp_all [optionally]
  · cases slashed <;> simp_all [optionally]

/-! ## Errors of gathering -/

namespace Progress

variable {progress : Progress} {pending : List Char} {pattern : String}

/-- At byte `i` the group that is open began earlier, and nothing stands in it exactly if it began
right in front. -/
def Placed (progress : Progress) (pending : List Char) (i : Nat) : Prop :=
  ∀ g ∈ progress.group, g.start < i ∧ (g.body = [] ∧ pending = [] ↔ i = g.start + 1)

theorem exists_addText_of_none (top : List Segment) (pending : List Char) :
    ∃ later, addText ⟨top, none⟩ pending = ⟨later, none⟩ := by
  cases pending with
  | nil => exact ⟨top, rfl⟩
  | cons c chars => exact ⟨_, rfl⟩

theorem exists_addText_of_some (top : List Segment) (g : OpenGroup) (pending : List Char) :
    ∃ body, addText ⟨top, some g⟩ pending = ⟨top, some ⟨g.start, body⟩⟩ ∧
      (body = [] ↔ g.body = [] ∧ pending = []) := by
  cases pending with
  | nil => exact ⟨g.body, rfl, by simp⟩
  | cons c chars => exact ⟨_, rfl, by simp⟩

theorem start_add (progress : Progress) (p : Piece) :
    (progress.add p).group.map (·.start) = progress.group.map (·.start) := by
  obtain ⟨top, group⟩ := progress
  cases group <;> rfl

theorem start_addText (progress : Progress) (pending : List Char) :
    (progress.addText pending).group.map (·.start) = progress.group.map (·.start) := by
  cases pending with
  | nil => rfl
  | cons c chars => exact start_add progress _

namespace Placed

variable {i j : Nat}

/-- There is nothing to place if no group is open. -/
theorem of_none (top : List Segment) (pending : List Char) (i : Nat) :
    Placed ⟨top, none⟩ pending i := by
  intro g member
  cases member

/-- Behind a piece nothing is in front of the next byte that the group could begin with. -/
theorem add (placed : progress.Placed pending i) (p : Piece) (later : i < j) :
    ((progress.addText pending).add p).Placed [] j := by
  obtain ⟨top, group⟩ := progress
  intro g' member
  cases group with
  | none =>
    obtain ⟨more, added⟩ := exists_addText_of_none top pending
    simp [added, Progress.add] at member
  | some g =>
    obtain ⟨body, added, -⟩ := exists_addText_of_some top g pending
    simp only [added, Progress.add, Option.mem_def, Option.some.injEq] at member
    have earlier := (placed g rfl).1
    subst member
    refine ⟨by dsimp only; omega, ?_⟩
    constructor
    · simp
    · dsimp only
      omega

theorem concat (placed : progress.Placed pending i) (c : Char) (later : i < j) :
    progress.Placed (pending ++ [c]) j := by
  intro g member
  have earlier := (placed g member).1
  refine ⟨by omega, ?_⟩
  constructor
  · simp
  · omega

end Placed

/-- Wherever gathering has come to, the lexemes of the characters fail as their parentheses do. -/
def FailsAlike (pattern : String) (chars : List Char) : Prop :=
  ∀ {progress : Progress} {pending : List Char} {start i : Nat} {e : PatternError},
    progress.Placed pending i → start + (encode pending).length = i →
      (progress.finish pattern (Lexeme.prepend start pending (Lexeme.scan i 0 chars)) = .error e ↔
        parenFault? pattern (progress.group.map (·.start)) i (encode chars) = some e)

namespace FailsAlike

theorem nil (pattern : String) : FailsAlike pattern [] := by
  intro progress pending start i e placed ends
  rw [Lexeme.scan, finish_prepend _ _ (by simp), encode_nil]
  obtain ⟨top, group⟩ := progress
  cases group with
  | none =>
    obtain ⟨later, added⟩ := exists_addText_of_none top pending
    simp [added, finish, gather, Except.map, parenFault?]
  | some g =>
    obtain ⟨body, added, -⟩ := exists_addText_of_some top g pending
    simp [added, finish, gather, Except.map, parenFault?]

variable {chars : List Char}

theorem opening (alike : FailsAlike pattern chars) : FailsAlike pattern ('(' :: chars) := by
  intro progress pending start i e placed ends
  have bytes : encode ('(' :: chars) = '('.toUInt8 :: encode chars := rfl
  rw [Lexeme.scan_opening, finish_prepend _ _ (by simp [Mark.isText]), bytes, parenFault?_opening]
  obtain ⟨top, group⟩ := progress
  cases group with
  | none =>
    obtain ⟨later, added⟩ := exists_addText_of_none top pending
    have placed : Placed ⟨later, some ⟨i, []⟩⟩ [] (i + 1) := by
      intro g opened
      obtain rfl := Option.some.inj opened
      simp
    rw [added, finish_opening]
    exact alike placed rfl
  | some g =>
    obtain ⟨body, added, -⟩ := exists_addText_of_some top g pending
    simp [added, finish, gather, Except.map]

theorem closing (alike : FailsAlike pattern (chars.drop (Lexeme.startsWith '?' chars).toNat)) :
    FailsAlike pattern (')' :: chars) := by
  intro progress pending start i e placed ends
  have bytes : encode (')' :: chars) = ')'.toUInt8 :: encode chars := rfl
  rw [Lexeme.scan_closing, finish_prepend _ _ (by simp [Mark.isText]), bytes, parenFault?_closing]
  obtain ⟨top, group⟩ := progress
  cases group with
  | none =>
    obtain ⟨later, added⟩ := exists_addText_of_none top pending
    simp [added, finish, gather, Except.map]
  | some g =>
    obtain ⟨body, added, empty⟩ := exists_addText_of_some top g pending
    have neighbours := (placed g rfl).2
    rw [← empty] at neighbours
    cases body with
    | nil => simp [added, finish, gather, Except.map, neighbours.mp rfl]
    | cons p body =>
      have apart : i ≠ g.start + 1 := fun same => List.cons_ne_nil _ _ (neighbours.mpr same)
      have unmarked {c : Char} (other : c ≠ '?') := not_mem_take_startsWith other chars
      have position (skipped : List Char) :
          i + (encode (')' :: skipped)).length = i + 1 + (encode skipped).length := by
        rw [encode_cons, List.length_append, Nat.add_assoc]
        rfl
      rw [added, finish_closing]
      dsimp only [Option.map_some]
      rw [if_neg apart, parenFault?_drop (unmarked (by decide)) (unmarked (by decide)), position]
      exact alike (.of_none _ [] _) rfl

theorem token {name : List Char} {optional : Bool} {width : Nat}
    (found : Lexeme.token? chars = some (name, optional, width))
    (alike : FailsAlike pattern (chars.drop width)) : FailsAlike pattern (':' :: chars) := by
  intro progress pending start i e placed ends
  have free {c : Char} (other : isWordChar c = false) (notColon : c ≠ ':') (notMark : c ≠ '?')
      (notSlash : c ≠ '/') : c ∉ (':' :: chars).take (width + 1) := by
    rw [List.take_succ_cons, List.mem_cons, not_or]
    exact ⟨notColon, not_mem_take_of_token? found other notMark notSlash⟩
  have later : i < i + (encode (':' :: chars.take width)).length := by
    rw [encode_cons, List.length_append, String.length_utf8EncodeChar]
    have size := (':').utf8Size_pos
    omega
  rw [Lexeme.scan_token _ found, finish_prepend _ _ (by simp [Mark.isText]), finish_token,
    parenFault?_drop (free rfl (by decide) (by decide) (by decide))
      (free rfl (by decide) (by decide) (by decide)),
    List.take_succ_cons, List.drop_succ_cons, ← start_addText progress pending,
    ← start_add _ (.token (String.ofList name) optional)]
  exact alike (placed.add _ later) rfl

theorem text {c : Char} (notOpening : c ≠ '(') (notClosing : c ≠ ')')
    (noToken : c = ':' → Lexeme.token? chars = none) (alike : FailsAlike pattern chars) :
    FailsAlike pattern (c :: chars) := by
  intro progress pending start i e placed ends
  have later : i < i + c.utf8Size := Nat.lt_add_of_pos_right c.utf8Size_pos
  have joined (lexemes : List Lexeme) :
      Lexeme.prepend start pending (Lexeme.consText i c lexemes) =
        Lexeme.prepend start (pending ++ [c]) lexemes := by
    rw [Lexeme.prepend_append, ends]
    rfl
  have size : (encode [c]).length = c.utf8Size := by simp
  have noOpening : '(' ∉ (c :: chars).take 1 := by simpa using notOpening.symm
  have noClosing : ')' ∉ (c :: chars).take 1 := by simpa using notClosing.symm
  rw [Lexeme.scan_plain _ notOpening notClosing noToken, joined,
    parenFault?_drop noOpening noClosing, List.take_succ_cons, List.take_zero, size]
  apply alike (placed.concat c later)
  rw [encode_append, List.length_append, size]
  omega

end FailsAlike

theorem failsAlike (pattern : String) (chars : List Char) : FailsAlike pattern chars := by
  induction chars using markInduction with
  | nil => exact FailsAlike.nil pattern
  | opening chars ih => exact ih.opening
  | closing chars ih => exact ih.closing
  | token chars name optional width found ih => exact ih.token found
  | text c chars notOpening notClosing noToken ih => exact ih.text notOpening notClosing noToken

end Progress

theorem finish_nothing (pattern : String) (lexemes : List Lexeme) :
    Progress.finish ⟨[], none⟩ pattern lexemes = gather pattern none lexemes := by
  rw [Progress.finish]
  cases gather pattern none lexemes <;> rfl

theorem gather_lexemes_eq_error_iff {pattern : String} {e : PatternError} :
    gather pattern none (lexemes pattern) = .error e ↔
      parenFault? pattern none 0 (utf8 pattern) = some e := by
  have placed : Progress.Placed ⟨[], none⟩ [] 0 := .of_none _ _ _
  have ends : 0 + (encode []).length = 0 := rfl
  rw [← finish_nothing]
  exact Progress.failsAlike pattern _ placed ends

theorem parenFault?_ne_tooLong {pattern : String} {opened : Option Nat} {i length : Nat}
    {bytes : List UInt8} : parenFault? pattern opened i bytes ≠ some (.tooLong length) := by
  fun_induction parenFault? pattern opened i bytes <;> simp_all

end PathRouting.Pattern
