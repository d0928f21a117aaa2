import PathRouting.Proofs.NormalPaths
import PathRouting.Proofs.Numerals

/-!
# Values that survive their writing

Not every value is read back from its writing: an absent value is written as nothing, a negative
number as a text that is no run of digits, and a text may be written like a boolean or a number.
Every value that was read from a path once is read back, though, and so it keeps its value when it
is written into another path and captured there.
-/

namespace PathRouting

open PathRouting.Text PathRouting.Pattern

/-! ## Which values survive -/

namespace Value

/-- The values that are read back from their writing. -/
inductive Survives : Value → Prop where
  | bool (b : Bool) : Survives (.bool b)
  | int {n : Int64} (natural : 0 ≤ n) : Survives (.int n)
  | text {s : String} (notYes : ¬ Spells s "true") (notNo : ¬ Spells s "false")
      (unfit : ¬ IsNumber s) : Survives (.text s)

theorem coerce_display_int {n : Int64} (natural : 0 ≤ n) : coerce (display (.int n)) = .int n := by
  rw [Int64.le_iff_toInt_le, Int64.toInt_zero] at natural
  obtain ⟨k, spelled⟩ := Int.eq_ofNat_of_zero_le natural
  have high := n.toInt_lt
  have fits : k ≤ maxInt := by
    have bound : maxInt = 2 ^ 63 - 1 := rfl
    omega
  have same : n = Int64.ofNat k := by
    rw [← Int64.toInt_inj, spelled, Int64.toInt_ofNat_of_lt (by omega)]
  rw [same, display_int_ofNat fits, coerce_repr fits]

theorem coerce_display_eq_iff {value : Value} : coerce value.display = value ↔ value.Survives := by
  constructor
  · intro back
    cases value with
    | absent => exact absurd back (coerce_ne_absent _)
    | bool b => exact .bool b
    | int n =>
      have spelled := (coerce_eq_int_iff.mp back).2
      refine .int ?_
      rw [Int64.le_iff_toInt_le, Int64.toInt_zero, spelled]
      exact Int.natCast_nonneg _
    | text s =>
      obtain ⟨-, notYes, notNo, unfit⟩ := coerce_eq_text_iff.mp back
      exact .text notYes notNo unfit
  · intro survives
    cases survives with
    | bool b => cases b <;> rfl
    | int natural => exact coerce_display_int natural
    | text notYes notNo unfit => exact coerce_eq_text_iff.mpr ⟨rfl, notYes, notNo, unfit⟩

theorem survives_coerce (raw : String) : (coerce raw).Survives :=
  coerce_display_eq_iff.mp (coerce_display_coerce raw)

end Value

/-! ## Values of matches -/

theorem Match.survives_valueOf (capture : Option String) :
    valueOf capture = .absent ∨ (valueOf capture).Survives := by
  cases capture with
  | none => exact .inl rfl
  | some raw => exact .inr (Value.survives_coerce raw)

theorem Matcher.exists_captures {matcher : Matcher} {path : String} {found : Match}
    (matched : matcher.matchPath path = some found) :
    ∃ captures : List (Option String), found.values = captures.map Match.valueOf := by
  cases matcher with
  | any =>
    obtain rfl := Option.some.inj matched
    exact ⟨_, rfl⟩
  | regex r | pattern program tokens =>
    obtain ⟨captures, -, rfl⟩ := Option.map_eq_some_iff.mp matched
    exact ⟨_, rfl⟩

/-- A text is read back from the writing of what it was read as; and in general exactly booleans,
numbers without a sign, and texts that are read as themselves survive.  So every value of a match
survives or is absent, and a template that is filled with words writes a path from which exactly the
surviving values of its bag are captured again. -/
theorem values_survive_writing :
    (∀ raw : String, Value.coerce (Value.coerce raw).display = Value.coerce raw) ∧
    (∀ value : Value, Value.coerce value.display = value ↔ value.Survives) ∧
    (∀ (matcher : Matcher) (path : String) (found : Match),
      matcher.matchPath path = some found →
        ∀ value ∈ found.values, value = .absent ∨ value.Survives) ∧
    ∀ (text : String) (template : Template) (bag : Bag), Template.parse text = .ok template →
      SlashClean template.segments → bag.Fills template.tokens →
      ∃ matcher found, Matcher.ofPattern text = .ok matcher ∧
        matcher.matchPath (template.expand bag) = some found ∧
        ∀ name ∈ template.tokens, ∃ value, bag[name]? = some value ∧
          (found.get? name = some value ↔ value.Survives) := by
  refine ⟨Value.coerce_display_coerce, fun _ => Value.coerce_display_eq_iff, ?_, ?_⟩
  · intro matcher path found matched value member
    obtain ⟨captures, values⟩ := Matcher.exists_captures matched
    rw [values, List.mem_map] at member
    obtain ⟨capture, -, rfl⟩ := member
    exact Match.survives_valueOf capture
  · intro text template bag parsed clean fills
    have read := Template.segments_of_parse parsed
    have captured := captures_expand fills clean (normal_of_parse read).2
    have compiles := Matcher.ofPattern_of_parse read
    have matched := Matcher.matchPath_of_captures read compiles captured
    refine ⟨_, _, compiles, matched, fun name member => ?_⟩
    obtain ⟨value, given, -⟩ := fills name member
    have written : bag.word name = value.display := by
      rw [Bag.word, given]
      rfl
    refine ⟨value, given, ?_⟩
    rw [← Template.tokens, Match.get?_ofCaptures_map bag.word member, written, Option.some.injEq]
    exact Value.coerce_display_eq_iff

theorem values_survive_writing_digits :
    let template : Template := ⟨":id/:code",
      [.piece (.token "id" false), .piece (.token "code" false)]⟩
    let bag : Bag := ((∅ : Bag).insert "id" (.int 7)).insert "code" (.text "007")
    Value.coerce (Value.coerce "TRUE").display = .bool true ∧
    Value.coerce (Value.display (.int (-7))) ≠ .int (-7) ∧
    ∃ matcher found, Matcher.ofPattern template.source = .ok matcher ∧
      matcher.matchPath (template.expand bag) = some found ∧
      (∀ value ∈ found.values, value = .absent ∨ value.Survives) ∧
      found.get? "id" = some (.int 7) ∧ found.get? "code" ≠ some (.text "007") := by
  intro template bag
  have read : Pattern.parse ":id/:code" = .ok template.segments := by rfl
  have parsed : Template.parse template.source = .ok template := by
    rw [Template.parse, read]
    rfl
  have clean : SlashClean template.segments := by
    refine ⟨fun body member => ?_, ?_⟩
    · simp [template] at member
    · show List.IsChain _ _
      decide
  have id : bag["id"]? = some (.int 7) := by
    rw [Std.ExtTreeMap.getElem?_insert, if_neg (by decide), Std.ExtTreeMap.getElem?_insert_self]
  have code : bag["code"]? = some (.text "007") := Std.ExtTreeMap.getElem?_insert_self
  have fills : bag.Fills template.tokens := by
    intro name member
    obtain rfl | rfl : name = "id" ∨ name = "code" := by
      simpa [template, Template.tokens, Segment.names, Piece.names] using member
    · exact ⟨_, id, by decide⟩
    · exact ⟨_, code, by decide⟩
  obtain ⟨again, back, captured, written⟩ := values_survive_writing
  obtain ⟨matcher, found, compiles, matched, values⟩ := written _ template bag parsed clean fills
  have number : Value.Survives (.int 7) := .int (by decide)
  have noText : ¬ Value.Survives (.text "007") := by
    rw [← back]
    decide
  have noSign : ¬ Value.Survives (.int (-7)) := by
    rintro (_ | natural)
    exact absurd natural (by decide)
  refine ⟨again "TRUE", mt (back _).mp noSign, matcher, found, compiles, matched,
    captured matcher _ found matched, ?_, ?_⟩
  · obtain ⟨value, given, kept⟩ := values "id" (by decide)
    obtain rfl := Option.some.inj (id.symm.trans given)
    exact kept.mpr number
  · obtain ⟨value, given, kept⟩ := values "code" (by decide)
    obtain rfl := Option.some.inj (code.symm.trans given)
    exact mt kept.mp noText

end PathRouting
