import Mathlib
import PathRouting.Proofs.Matching
import PathRouting.Proofs.Refusals

/-!
# Names and values of a match

A reading gives every token that it comes to what the token takes, so what is captured stands in the
order in which the pattern declares its tokens.  A match keeps that order: the value it has for a
name is what the token of that name took.
-/

namespace PathRouting

open PathRouting.Text PathRouting.Pattern

/-! ## What the tokens take -/

namespace Pattern

/-- The segments read the whole path under these choices, and every token on the way is bound, by
its name, to the word that it takes, or to nothing if it is left out. -/
inductive Binds :
    List Choice → List Segment → List UInt8 → List (String × Option String) → Prop where
  | done : Binds [] [] [] []
  | literal {choices segments text taken rest bound}
      (same : taken.map lowerByte = (utf8 text).map lowerByte)
      (next : Binds choices segments rest bound) :
      Binds choices (.piece (.literal text) :: segments) (taken ++ rest) bound
  | token {choices segments name word path rest bound}
      (takes : TakesWord word path rest) (next : Binds choices segments rest bound) :
      Binds choices (.piece (.token name false) :: segments) path ((name, some word) :: bound)
  | takeToken {choices segments name path bound}
      (next : Binds choices (.piece (.token name false) :: segments) path bound) :
      Binds (.take :: choices) (.piece (.token name true) :: segments) path bound
  | skipToken {choices segments name path bound}
      (next : Binds choices segments path bound) :
      Binds (.skip :: choices) (.piece (.token name true) :: segments) path ((name, none) :: bound)
  | takeGroup {choices segments body path bound}
      (next : Binds choices (Segment.pieces body ++ segments) path bound) :
      Binds (.take :: choices) (.group body :: segments) path bound
  /-- The tokens of a group that is left out are all left out. -/
  | skipGroup {choices segments body path bound}
      (next : Binds choices segments path bound) :
      Binds (.skip :: choices) (.group body :: segments) path
        ((Segment.group body).names.map (·, none) ++ bound)

variable {choices : List Choice} {segments : List Segment} {path : List UInt8}
  {captures : List (Option String)} {bound : List (String × Option String)}

theorem Binds.names (binds : Binds choices segments path bound) :
    bound.map Prod.fst = tokenNames segments := by
  induction binds with
  | done => rfl
  | literal _ _ ih => exact ih
  | token _ _ ih => exact congrArg _ ih
  | takeToken _ ih => exact ih
  | skipToken _ ih => exact congrArg _ ih
  | takeGroup _ ih => simpa using ih
  | skipGroup _ ih => simpa [Function.comp_def] using ih

theorem Reads.exists_binds (reads : Reads choices segments path captures) :
    ∃ bound, Binds choices segments path bound ∧ bound.map Prod.snd = captures := by
  induction reads with
  | done => exact ⟨[], .done, rfl⟩
  | literal same _ ih =>
    obtain ⟨bound, binds, rfl⟩ := ih
    exact ⟨bound, .literal same binds, rfl⟩
  | token takes _ ih =>
    obtain ⟨bound, binds, rfl⟩ := ih
    exact ⟨_, .token takes binds, rfl⟩
  | takeToken _ ih =>
    obtain ⟨bound, binds, rfl⟩ := ih
    exact ⟨bound, .takeToken binds, rfl⟩
  | skipToken _ ih =>
    obtain ⟨bound, binds, rfl⟩ := ih
    exact ⟨_, .skipToken binds, rfl⟩
  | takeGroup _ ih =>
    obtain ⟨bound, binds, rfl⟩ := ih
    exact ⟨bound, .takeGroup binds, rfl⟩
  | skipGroup _ ih =>
    obtain ⟨bound, binds, rfl⟩ := ih
    exact ⟨_, .skipGroup binds, by simp [Function.comp_def]⟩

theorem tokenNames_of_parse {text : String} (parsed : parse text = .ok segments) :
    tokenNames segments = declaredNames text.toList :=
  tokenNames_of_gather (gather_eq_ok_iff.mpr (parse_eq_ok_iff.mp parsed).2.1)

end Pattern

/-! ## What a match answers -/

namespace Match

/-- The match answers as the tokens were bound, in every way that it can be asked. -/
structure Holds (m : Match) (bound : List (String × Option String)) : Prop where
  names : m.names = bound.map Prod.fst
  distinct : m.names.Nodup
  size : m.size = m.names.length
  length : m.values.length = m.names.length
  named : m.named = bound.map fun (name, capture) => (name, valueOf capture)
  /-- A token is found at its position and by its name, with its own value. -/
  token {i : Nat} {name : String} {capture : Option String} : bound[i]? = some (name, capture) →
    m.at? i = some (valueOf capture) ∧ m.get? name = some (valueOf capture)
  beyond {i : Nat} : m.size ≤ i → m.at? i = none
  unknown {name : String} : name ∉ m.names → m.get? name = none

theorem get?_of_notMem {m : Match} {name : String} (unknown : name ∉ m.names) :
    m.get? name = none := by
  rw [get?, List.idxOf?_eq_none_iff.mpr unknown, Option.bind_none]

theorem get?_eq_at? {m : Match} (distinct : m.names.Nodup) {i : Nat} {name : String}
    (named : m.names[i]? = some name) : m.get? name = m.at? i := by
  obtain ⟨inside, same⟩ := List.getElem?_eq_some_iff.mp named
  have first : m.names.idxOf? name = some i := by
    refine List.idxOf?_eq_some_iff.mpr ⟨inside, same, fun j earlier again => ?_⟩
    have repeated : j = i := (List.getElem_inj distinct).mp (again.trans same.symm)
    omega
  rw [get?, first, Option.bind_some]

theorem holds_ofCaptures (path : String) {bound : List (String × Option String)}
    (distinct : (bound.map Prod.fst).Nodup) :
    (ofCaptures path (bound.map Prod.snd) (bound.map Prod.fst)).Holds bound where
  names := rfl
  distinct := distinct
  size := by simp
  length := by simp
  named := by
    rw [named, names_ofCaptures, values_ofCaptures, List.map_map, List.zip_map']
    rfl
  token {i name capture} found := by
    have value : (ofCaptures path (bound.map Prod.snd) (bound.map Prod.fst)).at? i =
        some (valueOf capture) := by
      rw [at?, values_ofCaptures, List.map_map, List.getElem?_map, found, Option.map_some]
      rfl
    have here : (ofCaptures path (bound.map Prod.snd) (bound.map Prod.fst)).names[i]? =
        some name := by
      rw [names_ofCaptures, List.getElem?_map, found, Option.map_some]
    exact ⟨value, (get?_eq_at? distinct here).trans value⟩
  beyond outside := List.getElem?_eq_none outside
  unknown := get?_of_notMem

end Match

/-- The match of a pattern names the tokens that the pattern declares, in the order in which they
are written, and answers for each of them with the value of what that token has taken in the first
reading.  Regular expressions and the source that takes any path have no names. -/
theorem values_stand_by_names :
    (∀ text segments, Pattern.parse text = .ok segments →
      ∃ matcher, Matcher.compile (.pattern text) = .ok matcher ∧
        matcher.tokens = declaredNames text.toList ∧
        ∀ path found, matcher.matchPath path = some found →
          found.names = declaredNames text.toList ∧
          ∃ choices bound, FirstReading choices segments (utf8 path) (bound.map Prod.snd) ∧
            Binds choices segments (utf8 path) bound ∧ found.Holds bound) ∧
    ∀ source matcher, (source = .any ∨ ∃ r, source = .regex r) →
      Matcher.compile source = .ok matcher → ∀ path found, matcher.matchPath path = some found →
        found.names = [] ∧ ∀ name, found.get? name = none := by
  refine ⟨fun text segments parsed => ?_, ?_⟩
  · have declared := tokenNames_of_parse parsed
    have normal := (normal_of_parse parsed).2
    refine ⟨.pattern (.compile segments) (tokenNames segments), ?_, declared, ?_⟩
    · rw [Matcher.compile, Matcher.ofPattern, parsed]
      rfl
    · intro path found matched
      obtain ⟨captures, captured, rfl⟩ := Option.map_eq_some_iff.mp matched
      obtain ⟨choices, first⟩ := captures_eq_some_iff.mp captured
      obtain ⟨bound, binds, rfl⟩ := first.reads.exists_binds
      refine ⟨declared, choices, bound, first, binds, ?_⟩
      have names := binds.names
      rw [← names]
      exact Match.holds_ofCaptures path (names ▸ normal.distinct)
  · intro source matcher unnamed compiled path found matched
    have names : found.names = [] := by
      rcases unnamed with rfl | ⟨r, rfl⟩
      · obtain rfl := Except.ok.inj compiled
        obtain rfl := Option.some.inj matched
        rfl
      · obtain rfl := Except.ok.inj compiled
        obtain ⟨_, _, rfl⟩ := Option.map_eq_some_iff.mp matched
        rfl
    exact ⟨names, fun name => Match.get?_of_notMem (by simp [names])⟩

theorem values_stand_by_names_skipped_group :
    let segments : List Segment := [.piece (.literal "a/"), .piece (.token "id" true),
      .group [.token "x" false, .token "y" false], .piece (.literal "b/"),
      .piece (.token "z" false)]
    ∃ matcher found, Matcher.compile (.pattern "a/:id?/(:x/:y/)b/:z") = .ok matcher ∧
      matcher.tokens = ["id", "x", "y", "z"] ∧ matcher.matchPath "a/7/b/True" = some found ∧
      found.values = [.int 7, .absent, .absent, .bool true] ∧
      (∃ choices bound, Binds choices segments (utf8 "a/7/b/True") bound ∧ found.Holds bound) ∧
      ∀ everything, Matcher.any.matchPath "a/7/b/True" = some everything →
        everything.get? "z" = none := by
  intro segments
  have parsed : Pattern.parse "a/:id?/(:x/:y/)b/:z" = .ok segments := by rfl
  obtain ⟨matcher, compiled, tokens, answers⟩ := values_stand_by_names.1 _ _ parsed
  have same : matcher = .pattern (.compile segments) ["id", "x", "y", "z"] := by
    rw [Matcher.compile, Matcher.ofPattern, parsed] at compiled
    exact (Except.ok.inj compiled).symm
  have captured : (Program.compile segments).captures "a/7/b/True" =
      some [some "7", none, none, some "True"] := by cbv
  have matched : matcher.matchPath "a/7/b/True" = some (.ofCaptures "a/7/b/True"
      [some "7", none, none, some "True"] ["id", "x", "y", "z"]) := by
    rw [same, Matcher.matchPath, captured, Option.map_some]
  obtain ⟨-, choices, bound, -, binds, holds⟩ := answers _ _ matched
  refine ⟨matcher, _, compiled, tokens.trans (by decide), matched, by decide,
    ⟨choices, bound, binds, holds⟩, fun everything matched => ?_⟩
  exact (values_stand_by_names.2 .any .any (.inl rfl) rfl _ _ matched).2 "z"

end PathRouting
