import PathRouting.Proofs.Filling
import PathRouting.Proofs.Matching
import PathRouting.Proofs.Parsing

/-!
# Writing a path and matching it

A path that is written from a slash-clean template, with a word for every token, is matched by the
pattern of the template, and the match gives the words back.
-/

namespace PathRouting

open PathRouting.Text PathRouting.Pattern

/-! ## Reading what was filled -/

namespace Pattern

variable {word : String → String} {segments : List Segment}

theorem utf8_ofList_append (a b : List Char) :
    utf8 (String.ofList (a ++ b)) = utf8 (String.ofList a) ++ utf8 (String.ofList b) := by
  rw [String.ofList_append, utf8_append]

theorem exists_reads_filled (words : ∀ name ∈ tokenNames segments, IsWord (word name)) :
    ∃ choices, (∀ c ∈ choices, c = .take) ∧
      Reads choices segments (utf8 (String.ofList (filled word segments)))
        ((tokenNames segments).map fun name => some (word name)) := by
  induction segments using Segment.readInduction with
  | nil => exact ⟨[], nofun, .done⟩
  | literal text segments ih =>
    obtain ⟨choices, takes, reads⟩ := ih words
    refine ⟨choices, takes, ?_⟩
    rw [filled, List.flatMap_cons, ← filled, utf8_ofList_append]
    rw [Segment.filled, Piece.filled, String.ofList_toList]
    exact .literal rfl reads
  | token name segments ih =>
    have isWord : IsWord (word name) := words name List.mem_cons_self
    obtain ⟨choices, takes, reads⟩ :=
      ih fun other member => words other (List.mem_cons_of_mem _ member)
    refine ⟨choices, takes, ?_⟩
    rw [filled, List.flatMap_cons, ← filled, utf8_ofList_append]
    rw [Segment.filled, Piece.filled, utf8_ofList_append, String.ofList_toList, List.append_assoc]
    exact .token (.slashed isWord _) reads
  | optional name segments ih _ =>
    obtain ⟨choices, takes, reads⟩ := ih words
    exact ⟨.take :: choices, List.forall_mem_cons.mpr ⟨rfl, takes⟩, .takeToken reads⟩
  | group body segments ih _ =>
    have names : tokenNames (Segment.pieces body ++ segments) =
        tokenNames (.group body :: segments) := by
      rw [tokenNames_append, Segment.tokenNames_pieces, tokenNames_cons]
    have text : filled word (Segment.pieces body ++ segments) =
        filled word (.group body :: segments) := by
      rw [filled, List.flatMap_append, Segment.pieces, List.flatMap_map]
      rfl
    rw [names, text] at ih
    obtain ⟨choices, takes, reads⟩ := ih words
    exact ⟨.take :: choices, List.forall_mem_cons.mpr ⟨rfl, takes⟩, .takeGroup reads⟩

theorem literal_ne_empty_of_normal (normal : Normal segments) :
    ∀ text, ∀ s ∈ segments, .literal text ∈ s.contents → text ≠ "" := by
  intro text s member inside
  have each := normal.each s member
  cases s with
  | piece p =>
    obtain rfl := List.mem_singleton.mp inside
    exact each.1
  | group body => exact (each.2.1 _ inside).1

end Pattern

/-! ## The round trip -/

theorem Match.get?_ofCaptures_map {path name : String} {names : List String}
    (word : String → String) (member : name ∈ names) :
    (Match.ofCaptures path (names.map fun name => some (word name)) names).get? name =
      some (.coerce (word name)) := by
  obtain ⟨index, first⟩ := Option.isSome_iff_exists.mp (List.isSome_idxOf?.mpr member)
  obtain ⟨inside, same, -⟩ := List.idxOf?_eq_some_iff.mp first
  have named : names[index]? = some name := List.getElem?_eq_some_iff.mpr ⟨inside, same⟩
  rw [Match.get?, Match.names_ofCaptures, first, Option.bind_some, Match.at?,
    Match.values_ofCaptures, List.map_map, List.getElem?_map, named]
  rfl

theorem Template.segments_of_parse {text : String} {template : Template}
    (parsed : Template.parse text = .ok template) :
    Pattern.parse text = .ok template.segments := by
  obtain ⟨segments, read, rfl⟩ := bind_pure_eq_ok_iff.mp parsed
  exact read

/-- The path that a slash-clean template gives, if the bag has a word for every token, is matched
by the pattern of the template.  The match gives back the coerced word of every token, so no token
is left out. -/
theorem matchPath_expand {text : String} {template : Template} {bag : Bag}
    (parsed : Template.parse text = .ok template) (clean : SlashClean template.segments)
    (fills : bag.Fills template.tokens) :
    ∃ matcher found, Matcher.ofPattern text = .ok matcher ∧
      matcher.matchPath (template.expand bag) = some found ∧
      (∀ name ∈ template.tokens, ∃ value, bag[name]? = some value ∧
        found.get? name = some (.coerce value.display)) ∧
      .absent ∉ found.values := by
  have read := Template.segments_of_parse parsed
  have written := literal_ne_empty_of_normal (normal_of_parse read).2
  obtain ⟨choices, takes, reads⟩ := exists_reads_filled fun _ member => fills.isWord member
  rw [← Template.expand_eq_filled fills clean written] at reads
  have captured := captures_eq_some_iff.mpr ⟨choices, .of_takes reads takes⟩
  have compiles : Matcher.ofPattern text =
      .ok (.pattern (.compile template.segments) (tokenNames template.segments)) := by
    rw [Matcher.ofPattern, read]
    rfl
  refine ⟨_, _, compiles, by rw [Matcher.matchPath, captured, Option.map_some], ?_, ?_⟩
  · intro name member
    obtain ⟨value, given, -⟩ := fills name member
    refine ⟨value, given, (Match.get?_ofCaptures_map bag.word member).trans ?_⟩
    rw [Bag.word, given]
    rfl
  · rw [Match.values_ofCaptures, List.map_map, List.mem_map]
    rintro ⟨name, -, absent⟩
    exact Value.coerce_ne_absent _ absent

theorem matchPath_expand_group :
    let template : Template := ⟨"user/(:id/)profile/:tab?",
      [.piece (.literal "user/"), .group [.token "id" false], .piece (.literal "profile/"),
        .piece (.token "tab" true)]⟩
    let bag : Bag := ((∅ : Bag).insert "id" (.int 7)).insert "tab" (.text "a_1")
    ∃ matcher found, Matcher.ofPattern template.source = .ok matcher ∧
      matcher.matchPath (template.expand bag) = some found ∧
      (∀ name ∈ template.tokens, ∃ value, bag[name]? = some value ∧
        found.get? name = some (.coerce value.display)) ∧
      .absent ∉ found.values := by
  intro template bag
  have read : Pattern.parse "user/(:id/)profile/:tab?" = .ok template.segments := by rfl
  have parsed : Template.parse template.source = .ok template := by
    rw [Template.parse, read]
    rfl
  have clean : SlashClean template.segments := by
    refine ⟨fun body member => ?_, ?_⟩
    · obtain rfl : [.token "id" false] = body := by simpa [template, eq_comm] using member
      exact ⟨_, rfl, trivial⟩
    · show List.IsChain _ _
      decide
  have fills : bag.Fills template.tokens := by
    intro name member
    obtain rfl | rfl : name = "id" ∨ name = "tab" := by
      simpa [template, Template.tokens, Segment.names, Piece.names] using member
    · have found : bag["id"]? = some (.int 7) := by
        rw [Std.ExtTreeMap.getElem?_insert, if_neg (by decide),
          Std.ExtTreeMap.getElem?_insert_self]
      exact ⟨_, found, by decide⟩
    · exact ⟨_, Std.ExtTreeMap.getElem?_insert_self, by decide⟩
  exact matchPath_expand parsed clean fills

end PathRouting
