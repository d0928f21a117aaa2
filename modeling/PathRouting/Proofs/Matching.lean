import PathRouting.Matcher
import PathRouting.Proofs.Pattern.Compiled

/-!
# What a pattern matches

A compiled pattern matches a path if its segments have a reading of the path, and it answers with
the captures of the first reading: the one that takes an optional element wherever it can, from
left to right.
-/

namespace PathRouting

open PathRouting.Text PathRouting.Pattern

/-! ## The captures of a compiled pattern -/

namespace Pattern

variable {segments : List Segment} {path : String} {captures : List (Option String)}

theorem firstReading_of_firstRun {choices : List Choice} {final : Slots}
    (first : (Program.compile segments).FirstRun choices 0 0 (utf8 path)
      (Array.replicate (Program.compile segments).slots none) final) :
    FirstReading choices segments (utf8 path) (Span.texts (utf8 path) final.toList) := by
  have stands := Stands.compile segments (utf8 path)
  constructor
  · obtain ⟨spans, split, reads⟩ := reads_of_runs segments stands first.runs
    rwa [split]
  · intro others captured reads
    obtain ⟨other, _, run, _⟩ := runs_of_reads reads stands
    exact first.preferred run

theorem captures_eq_none_iff (segments : List Segment) (path : String) :
    (Program.compile segments).captures path = none ↔
      ∀ choices captures, ¬ Reads choices segments (utf8 path) captures := by
  have stands := Stands.compile segments (utf8 path)
  have decides := (Program.compile segments).run_decides (utf8 path)
  rw [Program.captures, Option.map_eq_none_iff]
  generalize (Program.compile segments).run (utf8 path) = result at decides
  match result, decides with
  | (none, _), ⟨_, fails⟩ =>
    refine ⟨fun _ choices captures reads => ?_, fun _ => rfl⟩
    obtain ⟨final, _, run, _⟩ := runs_of_reads reads stands
    exact fails choices final run
  | (some final, _), ⟨choices, first⟩ =>
    refine ⟨nofun, fun fails => ?_⟩
    exact absurd (firstReading_of_firstRun first).reads (fails _ _)

theorem captures_eq_some_iff :
    (Program.compile segments).captures path = some captures ↔
      ∃ choices, FirstReading choices segments (utf8 path) captures := by
  have decides := (Program.compile segments).run_decides (utf8 path)
  have fails := captures_eq_none_iff segments path
  rw [Program.captures] at fails ⊢
  generalize (Program.compile segments).run (utf8 path) = result at decides fails
  match result, decides with
  | (none, _), _ =>
    refine ⟨nofun, fun ⟨choices, first⟩ => ?_⟩
    exact absurd first.reads (fails.mp rfl choices captures)
  | (some final, _), ⟨choices, first⟩ =>
    have reading := firstReading_of_firstRun first
    constructor
    · intro same
      obtain rfl := Option.some.inj same
      exact ⟨choices, reading⟩
    · rintro ⟨others, reading'⟩
      obtain ⟨-, rfl⟩ := reading.unique reading'
      rfl

theorem captures_congr {others : List Segment} {other : String}
    (same : ∀ choices captures,
      Reads choices segments (utf8 path) captures ↔ Reads choices others (utf8 other) captures) :
    (Program.compile segments).captures path = (Program.compile others).captures other := by
  refine Option.ext fun captures => ?_
  rw [captures_eq_some_iff, captures_eq_some_iff]
  exact exists_congr fun choices => FirstReading.congr same

end Pattern

/-! ## Matches -/

namespace Value

theorem coerce_ne_absent (raw : String) : coerce raw ≠ .absent := by
  unfold coerce
  split
  · simp
  · split
    · simp
    · split <;> simp

end Value

theorem Match.valueOf_eq_absent_iff {capture : Option String} :
    valueOf capture = .absent ↔ capture.isNone = true := by
  cases capture with
  | none => simp [valueOf]
  | some raw => simp [valueOf, Value.coerce_ne_absent]

theorem Matcher.ofPattern_of_parse {text : String} {segments : List Segment}
    (parsed : Pattern.parse text = .ok segments) :
    Matcher.ofPattern text = .ok (.pattern (.compile segments) (tokenNames segments)) := by
  rw [Matcher.ofPattern, parsed]
  rfl

theorem Matcher.matchPath_of_captures {text path : String} {segments : List Segment}
    {matcher : Matcher} {captures : List (Option String)}
    (parsed : Pattern.parse text = .ok segments) (compiles : Matcher.ofPattern text = .ok matcher)
    (captured : (Program.compile segments).captures path = some captures) :
    matcher.matchPath path = some (.ofCaptures path captures (tokenNames segments)) := by
  obtain rfl := Except.ok.inj ((ofPattern_of_parse parsed).symm.trans compiles)
  rw [matchPath, captured, Option.map_some]

/-- A pattern that can be read matches a path exactly if some choices of taking and skipping its
optional elements read the whole path.  The match holds the coerced captures of the reading whose
choices are preferred to all others, and exactly the tokens that these choices leave out have no
value. -/
theorem matchPath_eq_first_reading {text : String} {segments : List Segment}
    (parsed : Pattern.parse text = .ok segments) :
    ∃ matcher, Matcher.ofPattern text = .ok matcher ∧ ∀ path : String,
      ((matcher.matchPath path).isSome ↔
        ∃ choices captures, Reads choices segments (utf8 path) captures) ∧
      ∀ found, matcher.matchPath path = some found →
        ∃ choices captures, FirstReading choices segments (utf8 path) captures ∧
          found = .ofCaptures path captures (tokenNames segments) ∧
          found.values.map (fun v => decide (v = .absent)) = leftOut choices segments := by
  refine ⟨.pattern (.compile segments) (tokenNames segments), ?_, fun path => ⟨?_, ?_⟩⟩
  · rw [Matcher.ofPattern, parsed]
    rfl
  · rw [Matcher.matchPath, Option.isSome_map, ← not_iff_not, Option.not_isSome_iff_eq_none,
      captures_eq_none_iff]
    simp
  · intro found same
    obtain ⟨captures, captured, rfl⟩ := Option.map_eq_some_iff.mp same
    obtain ⟨choices, first⟩ := captures_eq_some_iff.mp captured
    refine ⟨choices, captures, first, rfl, ?_⟩
    rw [← first.reads.map_isNone, Match.values_ofCaptures, List.map_map]
    refine List.map_congr_left fun capture _ => ?_
    rw [Function.comp_apply, Bool.eq_iff_iff, decide_eq_true_iff, Match.valueOf_eq_absent_iff]

theorem matchPath_eq_first_reading_optional_in_group :
    ∃ matcher, Matcher.ofPattern "list(:page?/:sort)end" = .ok matcher ∧ ∀ path : String,
      ((matcher.matchPath path).isSome ↔
        ∃ choices captures, Reads choices
          [.piece (.literal "list"), .group [.token "page" true, .token "sort" false],
            .piece (.literal "end")] (utf8 path) captures) ∧
      ∀ found, matcher.matchPath path = some found →
        ∃ choices captures, FirstReading choices
          [.piece (.literal "list"), .group [.token "page" true, .token "sort" false],
            .piece (.literal "end")] (utf8 path) captures ∧
          found = .ofCaptures path captures ["page", "sort"] ∧
          found.values.map (fun v => decide (v = .absent)) = leftOut choices
            [.piece (.literal "list"), .group [.token "page" true, .token "sort" false],
              .piece (.literal "end")] :=
  matchPath_eq_first_reading (by rfl)

end PathRouting
