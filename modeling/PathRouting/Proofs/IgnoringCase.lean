import Mathlib
import PathRouting.Proofs.Matching
import PathRouting.Proofs.Text.Case

/-!
# Paths that differ in case

A search asks three things of the bytes that are left: whether a literal agrees with them up to
case, which word they begin with, and whether there are any.  None of them depends on the case of a
letter, so on two paths that agree up to case the search goes the same way, remembers the same and
captures the same bytes.
-/

namespace PathRouting

open PathRouting.Text PathRouting.Pattern

/-! ## The search -/

namespace Pattern

theorem takeWord?_map_lowerByte (bytes : List UInt8) :
    takeWord? (bytes.map lowerByte) =
      (takeWord? bytes).map fun (width, slashed, rest) => (width, slashed, rest.map lowerByte) := by
  have word : isWordByte ∘ lowerByte = isWordByte := funext isWordByte_lowerByte
  rw [takeWord?, takeWord?, List.takeWhile_map, List.dropWhile_map, word, List.length_map]
  generalize (bytes.takeWhile isWordByte).length = width
  generalize bytes.dropWhile isWordByte = left
  cases width with
  | zero => rfl
  | succ n =>
    cases left with
    | nil => rfl
    | cons b rest =>
      simp only [List.map_cons, lowerByte_eq_slash_iff]
      split <;> rfl

variable {program : Program}

theorem Program.search_map_lowerByte (depth pc pos : Nat) (rest : List UInt8) (slots : Slots)
    (memo : Memo) : program.search depth pc pos (rest.map lowerByte) slots memo =
      program.search depth pc pos rest slots memo := by
  -- Each case asks one thing of the rest, and gets the same answer; what is remembered does not
  -- depend on the rest, so both branches of a split are entered with the same memo.
  fun_induction program.search depth pc pos rest slots memo with
  | case1 depth pc pos rest slots memo inRange bytes found left drops ih =>
    rw [search, dif_pos inRange, found]
    simp only [dropText?_map_lowerByte, drops, Option.map_some, ih]
  | case2 depth pc pos rest slots memo inRange bytes found drops =>
    rw [search, dif_pos inRange, found]
    simp only [dropText?_map_lowerByte, drops, Option.map_none]
  | case3 depth pc pos rest slots memo inRange slot found width slashed left takes ih =>
    rw [search, dif_pos inRange, found]
    simp only [takeWord?_map_lowerByte, takes, Option.map_some, ih]
  | case4 depth pc pos rest slots memo inRange slot found takes =>
    rw [search, dif_pos inRange, found]
    simp only [takeWord?_map_lowerByte, takes, Option.map_none]
  | case5 depth pc pos rest slots memo inRange target found failed =>
    rw [search, dif_pos inRange, found]
    simp only [failed, if_true]
  | case6 depth pc pos rest slots memo inRange target found new forward final memo' result ih =>
    rw [search, dif_pos inRange, found]
    simp only [if_neg new, if_pos forward, ih, result]
  | case7 depth pc pos rest slots memo inRange target found new forward memo₁ result₁ final memo₂
      result₂ ihTake ihSkip =>
    rw [search, dif_pos inRange, found]
    simp only [if_neg new, if_pos forward, ihTake, result₁, ihSkip, result₂]
  | case8 depth pc pos rest slots memo inRange target found new forward memo₁ result₁ memo₂ result₂
      ihTake ihSkip =>
    rw [search, dif_pos inRange, found]
    simp only [if_neg new, if_pos forward, ihTake, result₁, ihSkip, result₂]
  | case9 depth pc pos rest slots memo inRange target found new backward =>
    rw [search, dif_pos inRange, found]
    simp only [if_neg new, if_neg backward]
  | case10 depth pc pos rest slots memo inRange found finished =>
    rw [search, dif_pos inRange, found]
    simp only [List.isEmpty_map, finished, if_true]
  | case11 depth pc pos rest slots memo inRange found unfinished =>
    rw [search, dif_pos inRange, found]
    simp only [List.isEmpty_map, if_neg unfinished]
  | case12 depth pc pos rest slots memo outOfRange =>
    rw [search, dif_neg outOfRange]

theorem Program.run_eq_of_case (program : Program) {path other : List UInt8}
    (same : path.map lowerByte = other.map lowerByte) : program.run path = program.run other := by
  rw [run, run, ← search_map_lowerByte, same, search_map_lowerByte]

theorem Span.sameIgnoringCase_text {path other : List UInt8}
    (same : path.map lowerByte = other.map lowerByte) (span : Span) :
    sameIgnoringCase (span.text path) (span.text other) = true := by
  rw [Span.text, Span.text]
  apply sameIgnoringCase_asciiText
  rw [List.map_take, List.map_drop, same, ← List.map_drop, ← List.map_take]

end Pattern

/-! ## The match -/

theorem Value.coerce_eq_text {raw s : String} (read : coerce raw = .text s) : s = raw := by
  have coerces := coerces_coerce raw
  rw [read] at coerces
  cases coerces with
  | text _ _ _ => rfl

namespace Match

/-- The match holds what stands at these places of the path: no value for a token that was skipped,
and texts as the path spells them. -/
structure CutFrom (m : Match) (path : String) (places : List (Option Span)) : Prop where
  values : m.values = places.map fun place => valueOf (place.map (Span.text (utf8 path)))
  absent (i : Nat) : m.at? i = some .absent ↔ places[i]? = some none
  spelled {i : Nat} {s : String} : m.at? i = some (.text s) →
    ∃ span, places[i]? = some (some span) ∧ s = span.text (utf8 path)

theorem cutFrom_ofCaptures (path : String) (places : List (Option Span))
    (names : List String) :
    (ofCaptures path (Span.texts (utf8 path) places) names).CutFrom path places := by
  have values : (ofCaptures path (Span.texts (utf8 path) places) names).values =
      places.map fun place => valueOf (place.map (Span.text (utf8 path))) := by
    rw [values_ofCaptures, Span.texts, List.map_map]
    rfl
  refine ⟨values, fun i => ?_, fun {i s} read => ?_⟩
  · rw [at?, values, List.getElem?_map, Option.map_eq_some_iff]
    simp only [valueOf_eq_absent_iff, Option.isNone_map, Option.isNone_iff_eq_none]
    exact exists_eq_right
  · rw [at?, values, List.getElem?_map] at read
    obtain ⟨place, found, value⟩ := Option.map_eq_some_iff.mp read
    cases place with
    | none => cases value
    | some span => exact ⟨span, found, Value.coerce_eq_text value⟩

theorem sameButCase_valueOf {path other : List UInt8}
    (same : path.map lowerByte = other.map lowerByte) (place : Option Span) :
    (valueOf (place.map (Span.text path))).SameButCase
      (valueOf (place.map (Span.text other))) := by
  cases place with
  | none => exact .same .absent
  | some span => exact Value.sameButCase_coerce (span.sameIgnoringCase_text same)

end Match

theorem Matcher.matchPath_pattern (program : Program) (tokens : List String) (path : String) :
    matchPath (.pattern program tokens) path = (program.run (utf8 path)).1.map fun slots =>
      Match.ofCaptures path (Span.texts (utf8 path) slots.toList) tokens := by
  rw [matchPath, Program.captures, Option.map_map]
  rfl

/-- A pattern does not see the case of a path.  Of two paths that agree up to case it matches both
or neither; in both it skips the same tokens and captures the same bytes, so the values at every
position are equal, or they are texts that agree up to case, each as its own path spells it. -/
theorem matchPath_ignores_case {text : String} {segments : List Segment}
    (parsed : Pattern.parse text = .ok segments) {a b : String}
    (same : sameIgnoringCase a b = true) :
    ∃ matcher, Matcher.ofPattern text = .ok matcher ∧
      ((matcher.matchPath a).isSome ↔ (matcher.matchPath b).isSome) ∧
      ∀ found other, matcher.matchPath a = some found → matcher.matchPath b = some other →
        ∃ slots, ((Program.compile segments).run (utf8 a)).1 = some slots ∧
          ((Program.compile segments).run (utf8 b)).1 = some slots ∧
          found.CutFrom a slots.toList ∧ other.CutFrom b slots.toList ∧
          List.Forall₂ Value.SameButCase found.values other.values := by
  have bytes := map_lowerByte_utf8 same
  have sameRun := (Program.compile segments).run_eq_of_case bytes
  refine ⟨_, Matcher.ofPattern_of_parse parsed, ?_, ?_⟩
  · rw [Matcher.matchPath_pattern, Matcher.matchPath_pattern, Option.isSome_map, Option.isSome_map,
      sameRun]
  · intro found other matched matched'
    rw [Matcher.matchPath_pattern, Option.map_eq_some_iff] at matched matched'
    obtain ⟨slots, result, rfl⟩ := matched
    obtain ⟨slots', result', rfl⟩ := matched'
    obtain rfl : slots = slots' := Option.some.inj (by rw [← result, sameRun, result'])
    have found := Match.cutFrom_ofCaptures a slots.toList (tokenNames segments)
    have other := Match.cutFrom_ofCaptures b slots.toList (tokenNames segments)
    refine ⟨slots, result, result', found, other, ?_⟩
    rw [found.values, other.values, List.forall₂_map_left_iff, List.forall₂_map_right_iff,
      List.forall₂_same]
    exact fun place _ => Match.sameButCase_valueOf bytes place

theorem matchPath_ignores_case_optional :
    sameIgnoringCase "U/Ab/TRUE/Z" "u/aB/True/z" = true ∧
      ∃ matcher found other, Matcher.ofPattern "u/:name/(:flag/)z:n?" = .ok matcher ∧
        matcher.matchPath "U/Ab/TRUE/Z" = some found ∧
        matcher.matchPath "u/aB/True/z" = some other ∧
        found.values = [.text "Ab", .bool true, .absent] ∧
        other.values = [.text "aB", .bool true, .absent] ∧
        List.Forall₂ Value.SameButCase found.values other.values ∧
        ∃ places, found.CutFrom "U/Ab/TRUE/Z" places ∧ other.CutFrom "u/aB/True/z" places := by
  let segments : List Segment := [.piece (.literal "u/"), .piece (.token "name" false),
    .group [.token "flag" false], .piece (.literal "z"), .piece (.token "n" true)]
  have parsed : Pattern.parse "u/:name/(:flag/)z:n?" = .ok segments := by rfl
  have same : sameIgnoringCase "U/Ab/TRUE/Z" "u/aB/True/z" = true := by decide
  obtain ⟨matcher, compiles, -, alike⟩ := matchPath_ignores_case parsed same
  have captured : (Program.compile segments).captures "U/Ab/TRUE/Z" =
      some [some "Ab", some "TRUE", none] := by cbv
  have captured' : (Program.compile segments).captures "u/aB/True/z" =
      some [some "aB", some "True", none] := by cbv
  have matched := Matcher.matchPath_of_captures parsed compiles captured
  have matched' := Matcher.matchPath_of_captures parsed compiles captured'
  obtain ⟨slots, -, -, found, other, values⟩ := alike _ _ matched matched'
  exact ⟨same, matcher, _, _, compiles, matched, matched', by decide, by decide, values,
    slots.toList, found, other⟩

end PathRouting
