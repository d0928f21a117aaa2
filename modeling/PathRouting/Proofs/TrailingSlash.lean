import Mathlib
import PathRouting.Proofs.Matching
import PathRouting.Proofs.Text.Boundaries

/-!
# A slash at the end of a path

A token takes the slash behind its word if there is one.  So if a pattern ends in a token that has
to be there, its readings of a path are its readings of the path with one more slash: what comes
earlier in the pattern cannot reach the end of the path, since it has to leave a word.
-/

namespace PathRouting

open PathRouting.Text PathRouting.Pattern

/-! ## The last byte -/

theorem Text.getLast?_encode_ne {chars : List Char} {a : Char} (ascii : a.toNat < 128)
    (other : chars.getLast? ≠ some a) : (encode chars).getLast? ≠ some a.toUInt8 := by
  rcases List.eq_nil_or_concat' chars with rfl | ⟨front, c, rfl⟩
  · simp
  · obtain ⟨first, more, bytes⟩ := exists_utf8EncodeChar c
    intro last
    rw [encode_append, List.getLast?_append_of_ne_nil _ (by simp [bytes])] at last
    have inside := (toUInt8_mem_encode_iff ascii).mp (List.mem_of_getLast? last)
    obtain rfl := List.mem_singleton.mp inside
    exact other List.getLast?_concat

/-- Bytes that do not end in a slash. -/
def Text.Unslashed (bytes : List UInt8) : Prop :=
  bytes.getLast? ≠ some slash

theorem Text.Unslashed.of_append {front back : List UInt8} (ends : Unslashed (front ++ back)) :
    Unslashed back := by
  intro last
  exact ends (by rw [List.getLast?_append, last, Option.some_or])

theorem Text.exists_concat_of_append {path front rest : List UInt8} {b : UInt8}
    (split : path ++ [b] = front ++ rest) (nonempty : rest ≠ []) :
    ∃ left, rest = left ++ [b] ∧ path = front ++ left := by
  rcases List.eq_nil_or_concat' rest with empty | ⟨left, c, rfl⟩
  · exact absurd empty nonempty
  · rw [← List.append_assoc] at split
    obtain ⟨rfl, last⟩ := List.append_inj' split rfl
    exact ⟨left, last ▸ rfl, rfl⟩

/-! ## Readings -/

namespace Pattern

namespace TakesWord

variable {word : String} {path rest : List UInt8}

theorem path_ne_nil (takes : TakesWord word path rest) : path ≠ [] := by
  have nonempty := takes.isWord.utf8_ne_nil
  cases takes with
  | slashed _ _ => simp
  | final _ => exact nonempty

theorem concat (takes : TakesWord word path rest) (nonempty : rest ≠ []) (b : UInt8) :
    TakesWord word (path ++ [b]) (rest ++ [b]) := by
  cases takes with
  | slashed isWord _ =>
    rw [List.append_assoc]
    exact .slashed isWord _
  | final _ => exact absurd rfl nonempty

theorem of_concat {b : UInt8} (takes : TakesWord word (path ++ [b]) rest) (nonempty : rest ≠ []) :
    ∃ left, rest = left ++ [b] ∧ TakesWord word path left := by
  generalize whole : path ++ [b] = bytes at takes
  cases takes with
  | slashed isWord _ =>
    rw [List.append_cons (utf8 word)] at whole
    obtain ⟨left, rfl, rfl⟩ := exists_concat_of_append whole nonempty
    rw [← List.append_cons]
    exact ⟨left, rfl, .slashed isWord left⟩
  | final _ => exact absurd rfl nonempty

theorem unslashed_rest (takes : TakesWord word path rest) (ends : Unslashed path) :
    Unslashed rest := by
  cases takes with
  | slashed _ _ =>
    rw [List.append_cons] at ends
    exact ends.of_append
  | final _ => exact nofun

/-- The last word takes a slash behind it or does without. -/
theorem concat_slash_iff (ends : Unslashed path) :
    TakesWord word (path ++ [slash]) [] ↔ TakesWord word path [] := by
  constructor
  · intro takes
    generalize whole : path ++ [slash] = bytes at takes
    cases takes with
    | slashed isWord _ =>
      obtain rfl := List.append_cancel_right whole
      exact .final isWord
    | final isWord =>
      have inside : slash ∈ utf8 word := whole ▸ List.mem_concat_self
      exact absurd (isWord.isWordByte_of_mem inside) (by simp)
  · intro takes
    cases takes with
    | slashed _ _ => exact absurd List.getLast?_concat ends
    | final isWord => exact .slashed isWord []

end TakesWord

variable {choices : List Choice} {front segments : List Segment} {name : String}
  {path : List UInt8} {captures : List (Option String)}

theorem not_reads_nil :
    ¬ Reads choices (front ++ [.piece (.token name false)]) [] captures := by
  induction front using Segment.readInduction generalizing choices captures with
  | nil =>
    intro reads
    obtain ⟨_, _, _, -, takes, -⟩ := reads_token_iff.mp reads
    exact takes.path_ne_nil rfl
  | literal text front ih =>
    intro reads
    obtain ⟨rest, drops, next⟩ := reads_literal_iff.mp reads
    obtain ⟨taken, nothing, -⟩ := dropText?_eq_some_iff.mp drops
    obtain ⟨-, rfl⟩ := List.append_eq_nil_iff.mp nothing.symm
    exact ih next
  | token other front ih =>
    intro reads
    obtain ⟨_, _, _, -, takes, -⟩ := reads_token_iff.mp reads
    exact takes.path_ne_nil rfl
  | optional other front ihTake ihSkip =>
    intro reads
    cases reads with
    | takeToken next => exact ihTake next
    | skipToken next => exact ihSkip next
  | group body front ihTake ihSkip =>
    intro reads
    cases reads with
    | takeGroup next => exact ihTake (List.append_assoc _ front _ ▸ next)
    | skipGroup next => exact ihSkip next

theorem Reads.path_ne_nil
    (reads : Reads choices (front ++ [.piece (.token name false)]) path captures) : path ≠ [] := by
  rintro rfl
  exact not_reads_nil reads

/-- With the same choices and the same captures, segments that end in a token read a path and the
path with a slash behind it. -/
theorem reads_concat_slash_iff (ends : Unslashed path) :
    Reads choices (front ++ [.piece (.token name false)]) (path ++ [slash]) captures ↔
      Reads choices (front ++ [.piece (.token name false)]) path captures := by
  -- By what is read in front of the last token.  Something is left for that token whenever
  -- something is read, so the slash is behind everything that comes earlier.
  induction front using Segment.readInduction generalizing choices path captures with
  | nil =>
    rw [List.nil_append, reads_token_iff, reads_token_iff]
    simp only [reads_nil_iff]
    constructor
    · rintro ⟨word, _, captured, rfl, takes, rfl, rfl, rfl⟩
      exact ⟨word, [], [], rfl, (TakesWord.concat_slash_iff ends).mp takes, rfl, rfl, rfl⟩
    · rintro ⟨word, _, captured, rfl, takes, rfl, rfl, rfl⟩
      exact ⟨word, [], [], rfl, (TakesWord.concat_slash_iff ends).mpr takes, rfl, rfl, rfl⟩
  | literal text front ih =>
    rw [List.cons_append, reads_literal_iff, reads_literal_iff]
    simp only [dropText?_eq_some_iff]
    constructor
    · rintro ⟨rest, ⟨taken, split, same⟩, next⟩
      obtain ⟨left, rfl, rfl⟩ := exists_concat_of_append split next.path_ne_nil
      exact ⟨left, ⟨taken, rfl, same⟩, (ih ends.of_append).mp next⟩
    · rintro ⟨rest, ⟨taken, rfl, same⟩, next⟩
      refine ⟨rest ++ [slash], ⟨taken, List.append_assoc .., same⟩, ?_⟩
      exact (ih ends.of_append).mpr next
  | token other front ih =>
    rw [List.cons_append, reads_token_iff, reads_token_iff]
    constructor
    · rintro ⟨word, rest, captured, rfl, takes, next⟩
      obtain ⟨left, rfl, takes'⟩ := takes.of_concat next.path_ne_nil
      exact ⟨word, left, captured, rfl, takes', (ih (takes'.unslashed_rest ends)).mp next⟩
    · rintro ⟨word, rest, captured, rfl, takes, next⟩
      refine ⟨word, _, captured, rfl, takes.concat next.path_ne_nil slash, ?_⟩
      exact (ih (takes.unslashed_rest ends)).mpr next
  | optional other front ihTake ihSkip =>
    rw [List.cons_append, reads_optional_iff, reads_optional_iff]
    rw [List.cons_append] at ihTake
    simp only [ihTake ends, ihSkip ends]
  | group body front ihTake ihSkip =>
    rw [List.append_assoc] at ihTake
    rw [List.cons_append, reads_group_iff, reads_group_iff]
    simp only [ihTake ends, ihSkip ends]

/-- The choices are the same for both paths, so the same ones are preferred. -/
theorem captures_append_slash {path : String} (ends : Unslashed (utf8 path)) :
    (Program.compile (front ++ [.piece (.token name false)])).captures (path ++ "/") =
      (Program.compile (front ++ [.piece (.token name false)])).captures path := by
  refine captures_congr fun choices captures => ?_
  have bytes : utf8 (path ++ "/") = utf8 path ++ [slash] := utf8_append path "/"
  rw [bytes, reads_concat_slash_iff ends]

end Pattern

/-! ## Matches -/

/-- The values and their names are the same, whatever was matched. -/
def Match.SameAnswers (m other : Match) : Prop :=
  m.values = other.values ∧ m.names = other.names

/-- If a pattern ends in a token that is not optional, a slash at the end of a path that does not
end in one changes nothing: both paths are matched with the same values and names, or neither is. -/
theorem matchPath_append_slash {text name : String} {segments : List Segment}
    (parsed : Pattern.parse text = .ok segments)
    (last : segments.getLast? = some (.piece (.token name false))) {path : String}
    (ends : path.toList.getLast? ≠ some '/') :
    ∃ matcher, Matcher.ofPattern text = .ok matcher ∧
      Option.Rel Match.SameAnswers (matcher.matchPath path) (matcher.matchPath (path ++ "/")) := by
  obtain ⟨front, rfl⟩ := List.getLast?_eq_some_iff.mp last
  have unslashed : Unslashed (utf8 path) := getLast?_encode_ne (by decide) ends
  refine ⟨_, Matcher.ofPattern_of_parse parsed, ?_⟩
  rw [Matcher.matchPath, Matcher.matchPath, captures_append_slash unslashed]
  cases (Program.compile (front ++ [.piece (.token name false)])).captures path with
  | none => exact .none
  | some captures => exact .some ⟨rfl, rfl⟩

theorem matchPath_append_slash_competing :
    "a/b1/k".toList.getLast? ≠ some '/' ∧
      ∃ matcher found, Matcher.ofPattern "a/:x?(b:y/):id" = .ok matcher ∧
        matcher.matchPath "a/b1/k" = some found ∧
        found.values = [.text "b1", .absent, .text "k"] ∧
        Option.Rel Match.SameAnswers (some found) (matcher.matchPath "a/b1/k/") := by
  let segments : List Segment := [.piece (.literal "a/"), .piece (.token "x" true),
    .group [.literal "b", .token "y" false], .piece (.token "id" false)]
  have parsed : Pattern.parse "a/:x?(b:y/):id" = .ok segments := by rfl
  have ends : "a/b1/k".toList.getLast? ≠ some '/' := by decide
  obtain ⟨matcher, compiles, same⟩ := matchPath_append_slash parsed rfl ends
  have captured : (Program.compile segments).captures "a/b1/k" =
      some [some "b1", none, some "k"] := by cbv
  have matched := Matcher.matchPath_of_captures parsed compiles captured
  exact ⟨ends, matcher, _, compiles, matched, by decide, matched ▸ same⟩

end PathRouting
