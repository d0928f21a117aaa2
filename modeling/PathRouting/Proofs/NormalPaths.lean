import PathRouting.Proofs.Coercion
import PathRouting.Proofs.Synthesis

/-!
# Normal paths

A path that gives every token a value can be written again from its match.  What is written is
matched with the same values, so writing once more changes nothing: the written path stands for all
paths with these values.
-/

namespace PathRouting

open PathRouting.Text PathRouting.Pattern

/-! ## What is captured -/

namespace Pattern.Reads

variable {choices : List Choice} {segments : List Segment} {path : List UInt8}
  {captures : List (Option String)}

theorem length_captures (reads : Reads choices segments path captures) :
    captures.length = (tokenNames segments).length := by
  induction reads with
  | done => rfl
  | literal _ _ ih => exact ih
  | token _ _ ih => exact congrArg (· + 1) ih
  | takeToken _ ih => exact ih
  | skipToken _ ih => exact congrArg (· + 1) ih
  | takeGroup _ ih => simpa [tokenNames_append] using ih
  | skipGroup _ ih => simpa [tokenNames_cons] using ih

theorem isWord_of_mem {word : String} (reads : Reads choices segments path captures)
    (member : some word ∈ captures) : IsWord word := by
  induction reads with
  | done => cases member
  | literal _ _ ih => exact ih member
  | token takes _ ih =>
    cases member with
    | head => exact takes.isWord
    | tail _ later => exact ih later
  | takeToken _ ih => exact ih member
  | skipToken _ ih =>
    cases member with
    | tail _ later => exact ih later
  | takeGroup _ ih => exact ih member
  | skipGroup _ ih =>
    rcases List.mem_append.mp member with skipped | later
    · simp at skipped
    · exact ih later

end Pattern.Reads

/-! ## The bag of a match -/

namespace Match

/-- The named values of a match as data for a template. -/
def bag (m : Match) : Bag :=
  .ofList m.named

/-- Every name has a value, and the values are read from words. -/
structure Complete (m : Match) : Prop where
  distinct : m.names.Nodup
  aligned : m.names.length = m.values.length
  words : ∀ value ∈ m.values, ∃ word, IsWord word ∧ value = .coerce word

theorem complete_ofCaptures {choices : List Choice} {segments : List Segment} {bytes : List UInt8}
    {captures : List (Option String)} (reads : Reads choices segments bytes captures)
    (distinct : (tokenNames segments).Nodup) (path : String)
    (present : .absent ∉ (ofCaptures path captures (tokenNames segments)).values) :
    (ofCaptures path captures (tokenNames segments)).Complete := by
  refine ⟨distinct, ?_, ?_⟩
  · simp [reads.length_captures]
  · intro value member
    rw [values_ofCaptures, List.mem_map] at member present
    obtain ⟨capture, inside, rfl⟩ := member
    cases capture with
    | none => exact absurd ⟨none, inside, rfl⟩ present
    | some word => exact ⟨word, reads.isWord_of_mem inside, rfl⟩

namespace Complete

variable {m : Match} (complete : m.Complete)

include complete

theorem map_fst_named : m.named.map Prod.fst = m.names :=
  List.map_fst_zip (Nat.le_of_eq complete.aligned)

theorem getElem?_bag {name : String} {value : Value} (member : (name, value) ∈ m.named) :
    m.bag[name]? = some value := by
  have apart : m.named.Pairwise fun a b => ¬ compare a.1 b.1 = .eq := by
    have distinct := complete.distinct
    rw [← complete.map_fst_named, List.Nodup, List.pairwise_map] at distinct
    simpa only [Std.compare_eq_iff_eq] using distinct
  exact Std.ExtTreeMap.getElem?_ofList_of_mem Std.ReflCmp.compare_self apart member

theorem map_word_bag : m.names.map m.bag.word = m.values.map Value.display := by
  have values : m.named.map Prod.snd = m.values :=
    List.map_snd_zip (Nat.le_of_eq complete.aligned.symm)
  rw [← complete.map_fst_named, ← values, List.map_map, List.map_map]
  refine List.map_congr_left fun entry member => ?_
  rw [Function.comp_apply, Bag.word, complete.getElem?_bag member]
  rfl

theorem fills_bag : m.bag.Fills m.names := by
  intro name member
  rw [← complete.map_fst_named, List.mem_map] at member
  obtain ⟨⟨name, value⟩, inside, rfl⟩ := member
  obtain ⟨word, isWord, rfl⟩ := complete.words value (List.of_mem_zip inside).2
  exact ⟨_, complete.getElem?_bag inside, Value.isWord_display_coerce isWord⟩

/-- Captures that hold the words of the bag give the values that the bag was made from. -/
theorem map_valueOf_word_bag :
    (m.names.map fun name => some (m.bag.word name)).map valueOf = m.values := by
  calc (m.names.map fun name => some (m.bag.word name)).map valueOf
    _ = (m.names.map m.bag.word).map Value.coerce := by
      rw [List.map_map, List.map_map]
      rfl
    _ = m.values.map (Value.coerce ∘ Value.display) := by
      rw [complete.map_word_bag, List.map_map]
    _ = m.values := by
      refine (List.map_congr_left fun value member => ?_).trans (List.map_id _)
      obtain ⟨word, -, rfl⟩ := complete.words value member
      exact Value.coerce_display_coerce word

end Complete

end Match

/-! ## Writing a match again -/

theorem Pattern.captures_expand {template : Template} {bag : Bag}
    (fills : bag.Fills template.tokens) (clean : SlashClean template.segments)
    (normal : Normal template.segments) :
    (Program.compile template.segments).captures (template.expand bag) =
      some (template.tokens.map fun name => some (bag.word name)) := by
  have written := Template.expand_eq_filled fills clean (literal_ne_empty_of_normal normal)
  obtain ⟨choices, takes, reads⟩ := exists_reads_filled fun _ member => fills.isWord member
  rw [← written] at reads
  exact captures_eq_some_iff.mpr ⟨choices, .of_takes reads takes⟩

/-- If all tokens of a slash-clean pattern have a value in a match, the path that is written from
the match is matched with the same values and names, and the same path is written from that match.
-/
theorem matchPath_expand_bag {text : String} {template : Template}
    (parsed : Template.parse text = .ok template) (clean : SlashClean template.segments) :
    ∃ matcher, Matcher.ofPattern text = .ok matcher ∧ ∀ path found,
      matcher.matchPath path = some found → .absent ∉ found.values →
        ∃ again, matcher.matchPath (template.expand found.bag) = some again ∧
          again.values = found.values ∧ again.names = found.names ∧
          template.expand again.bag = template.expand found.bag := by
  have read := Template.segments_of_parse parsed
  have normal := (normal_of_parse read).2
  refine ⟨.pattern (.compile template.segments) template.tokens, ?_, ?_⟩
  · rw [Matcher.ofPattern, read]
    rfl
  · intro path found matched present
    obtain ⟨captures, captured, same⟩ := Option.map_eq_some_iff.mp matched
    obtain ⟨choices, first⟩ := captures_eq_some_iff.mp captured
    have names : found.names = template.tokens := same ▸ rfl
    have complete : found.Complete := by
      subst same
      exact Match.complete_ofCaptures first.reads normal.distinct path present
    have fills := complete.fills_bag
    have kept := complete.map_valueOf_word_bag
    rw [names] at fills kept
    refine ⟨.ofCaptures (template.expand found.bag) _ template.tokens, ?_, kept, names.symm, ?_⟩
    · rw [Matcher.matchPath, captures_expand fills clean normal, Option.map_some]
    · rw [Match.bag, Match.named, Match.values_ofCaptures, Match.names_ofCaptures, kept, ← names]
      rfl

theorem matchPath_expand_bag_profile :
    let template : Template := ⟨"user/(:id/)profile/:tab?",
      [.piece (.literal "user/"), .group [.token "id" false], .piece (.literal "profile/"),
        .piece (.token "tab" true)]⟩
    ∃ matcher found again, Matcher.ofPattern template.source = .ok matcher ∧
      matcher.matchPath "USER/007/Profile/True" = some found ∧
      found.values = [.int 7, .bool true] ∧
      matcher.matchPath (template.expand found.bag) = some again ∧
      again.values = found.values ∧ again.names = found.names ∧
      template.expand again.bag = template.expand found.bag := by
  intro template
  have read : Pattern.parse "user/(:id/)profile/:tab?" = .ok template.segments := by rfl
  have parsed : Template.parse template.source = .ok template := by
    rw [Template.parse, read]
    rfl
  have clean : SlashClean template.segments := by
    refine ⟨fun body member => ?_, ?_⟩
    · obtain rfl : [.token "id" false] = body := by simpa [template, eq_comm] using member
      exact ⟨_, rfl, trivial⟩
    · show List.IsChain _ _
      decide
  have reads : Reads [.take, .take] template.segments (utf8 "USER/007/Profile/True")
      [some "007", some "True"] := by
    have split : utf8 "USER/007/Profile/True" =
        utf8 "USER/" ++ (utf8 "007" ++ slash :: (utf8 "Profile/" ++ utf8 "True")) := by decide
    have id : IsWord "007" := by decide
    have tab : IsWord "True" := by decide
    have upper : (utf8 "USER/").map lowerByte = (utf8 "user/").map lowerByte := by decide
    have capital : (utf8 "Profile/").map lowerByte = (utf8 "profile/").map lowerByte := by decide
    rw [split]
    exact .literal upper (.takeGroup (.token (.slashed id _)
      (.literal capital (.takeToken (.token (.final tab) .done)))))
  have captured := captures_eq_some_iff.mpr ⟨_, .of_takes reads (by decide)⟩
  obtain ⟨matcher, compiles, settles⟩ := matchPath_expand_bag parsed clean
  have same : matcher = .pattern (.compile template.segments) ["id", "tab"] := by
    rw [Matcher.ofPattern, read] at compiles
    exact (Except.ok.inj compiles).symm
  have matched : matcher.matchPath "USER/007/Profile/True" =
      some (.ofCaptures "USER/007/Profile/True" [some "007", some "True"] ["id", "tab"]) := by
    rw [same, Matcher.matchPath, captured, Option.map_some]
  have values : [some "007", some "True"].map Match.valueOf = [.int 7, .bool true] := by decide
  obtain ⟨again, rest⟩ := settles _ _ matched (by rw [Match.values_ofCaptures, values]; decide)
  exact ⟨matcher, _, again, compiles, matched, values, rest⟩

end PathRouting
