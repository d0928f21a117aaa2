import Mathlib.Data.List.TakeWhile
import PathRouting.CommandLine.Run
import PathRouting.Proofs.Fallible

/-!
# Data pairs

A bag is passed to a command as pairs of a key and a text.  The first equals sign of a pair ends its
key, and of the pairs with one key the last one counts; a single text that is no pair spoils them
all.  What is read back from its writing can be passed in any order and arrives as it was.
-/

namespace PathRouting.CommandLine

variable {pair key text : String} {pairs : List String} {value : Value} {bag final : Bag}

/-! ## One pair -/

/-- The pair gives a text to a key: the key ends at the first equals sign. -/
structure Gives (pair key text : String) : Prop where
  spelled : pair = key ++ "=" ++ text
  first : '=' ∉ key.toList

theorem exists_gives (signed : '=' ∈ pair.toList) : ∃ key text, Gives pair key text := by
  obtain ⟨before, behind, split, first⟩ := List.eq_append_cons_of_mem signed
  refine ⟨.ofList before, .ofList behind, ?_, ?_⟩
  · rw [← String.toList_inj, split]
    simp
  · rwa [String.toList_ofList]

theorem bne_of_unsigned {chars : List Char} (unsigned : '=' ∉ chars) :
    ∀ c ∈ chars, (c != '=') = true := by
  intro c member
  rw [bne_iff_ne]
  exact ne_of_mem_of_not_mem member unsigned

theorem Gives.splitPair?_eq (gives : Gives pair key text) : splitPair? pair = some (key, text) := by
  have spelled : pair.toList = key.toList ++ '=' :: text.toList := by simp [gives.spelled]
  have other := bne_of_unsigned gives.first
  rw [splitPair?, spelled, List.dropWhile_append_of_pos other, List.takeWhile_append_of_pos other]
  simp

theorem splitPair?_of_unsigned (unsigned : '=' ∉ pair.toList) : splitPair? pair = none := by
  rw [splitPair?, List.dropWhile_eq_nil_iff.mpr (bne_of_unsigned unsigned)]

theorem Gives.gives_iff {key' text' : String} (gives : Gives pair key text) :
    Gives pair key' text' ↔ key = key' ∧ text = text' := by
  constructor
  · intro other
    simpa using gives.splitPair?_eq.symm.trans other.splitPair?_eq
  · rintro ⟨rfl, rfl⟩
    exact gives

/-! ## One after the other -/

/-- The last pair with the key gives the text. -/
inductive LastGives (key text : String) : List String → Prop where
  | here {pair : String} {pairs : List String} (gives : Gives pair key text)
      (last : ∀ later ∈ pairs, ∀ other, ¬ Gives later key other) :
      LastGives key text (pair :: pairs)
  | later {pair : String} {pairs : List String} (rest : LastGives key text pairs) :
      LastGives key text (pair :: pairs)

/-- A text without an equals sign is refused, and the error names it. -/
def Refuses (pair : String) (e : CommandError) : Prop :=
  '=' ∉ pair.toList ∧ e = .badPair pair

theorem forall_not_refuses_iff : (∀ e, ¬ Refuses pair e) ↔ '=' ∈ pair.toList := by
  simp [Refuses]

@[simp] theorem not_lastGives_nil : ¬ LastGives key text [] := by
  rintro ⟨⟩

theorem lastGives_cons_iff : LastGives key text (pair :: pairs) ↔
    LastGives key text pairs ∨
      Gives pair key text ∧ ∀ later ∈ pairs, ∀ other, ¬ Gives later key other := by
  constructor
  · rintro (⟨gives, last⟩ | rest)
    · exact .inr ⟨gives, last⟩
    · exact .inl rest
  · rintro (rest | ⟨gives, last⟩)
    · exact .later rest
    · exact .here gives last

theorem exists_lastGives_iff : (∃ text, LastGives key text pairs) ↔
    ∃ pair ∈ pairs, ∃ text, Gives pair key text := by
  constructor
  · rintro ⟨text, given⟩
    induction given with
    | here gives _ => exact ⟨_, List.mem_cons_self, text, gives⟩
    | later _ ih =>
      obtain ⟨pair, member, gives⟩ := ih
      exact ⟨pair, List.mem_cons_of_mem _ member, gives⟩
  · intro given
    induction pairs with
    | nil => simp at given
    | cons pair pairs ih =>
      by_cases again : ∃ later ∈ pairs, ∃ text, Gives later key text
      · obtain ⟨text, rest⟩ := ih again
        exact ⟨text, .later rest⟩
      · simp only [not_exists, not_and] at again
        simp only [List.exists_mem_cons_iff] at given
        obtain ⟨text, gives⟩ | ⟨later, member, text, gives⟩ := given
        · exact ⟨text, .here gives again⟩
        · exact absurd gives (again later member text)

theorem addPairs_of_gives (gives : Gives pair key text) :
    addPairs bag (pair :: pairs) = addPairs (bag.insert key (.coerce text)) pairs := by
  simp only [addPairs, gives.splitPair?_eq]

theorem addPairs_of_unsigned (unsigned : '=' ∉ pair.toList) :
    addPairs bag (pair :: pairs) = .error (.badPair pair) := by
  simp only [addPairs, splitPair?_of_unsigned unsigned]

theorem addPairs_eq_error_iff {e : CommandError} :
    addPairs bag pairs = .error e ↔ FirstRefusal Refuses pairs e := by
  induction pairs generalizing bag with
  | nil => simp [addPairs]
  | cons pair pairs ih =>
    rw [firstRefusal_cons_iff]
    by_cases signed : '=' ∈ pair.toList
    · obtain ⟨key, text, gives⟩ := exists_gives signed
      rw [addPairs_of_gives gives, ih]
      simp [Refuses, signed]
    · rw [addPairs_of_unsigned signed]
      simp [Refuses, signed, eq_comm]

/-- What the bag holds in the end: what the last pair with the key gives, or what was there before
if there is none. -/
theorem getElem?_of_addPairs (ends : addPairs bag pairs = .ok final) :
    final[key]? = some value ↔
      (∃ text, LastGives key text pairs ∧ value = .coerce text) ∨
        (∀ pair ∈ pairs, ∀ text, ¬ Gives pair key text) ∧ bag[key]? = some value := by
  induction pairs generalizing bag with
  | nil =>
    obtain rfl := Except.ok.inj ends
    simp
  | cons pair pairs ih =>
    by_cases signed : '=' ∈ pair.toList
    · obtain ⟨name, given, gives⟩ := exists_gives signed
      rw [addPairs_of_gives gives] at ends
      simp only [ih ends, lastGives_cons_iff, List.forall_mem_cons, gives.gives_iff,
        Std.ExtTreeMap.getElem?_insert, Std.compare_eq_iff_eq]
      by_cases same : name = key
      · subst same
        simp [or_and_right, exists_or, eq_comm]
      · simp [same]
    · rw [addPairs_of_unsigned signed] at ends
      cases ends

/-! ## Passing a bag -/

/-- An entry as it is passed. -/
def writePair (entry : String × Value) : String :=
  entry.1 ++ "=" ++ entry.2.display

/-- An entry arrives as it was: its key has no equals sign, and its value is read back from its
writing. -/
structure Passes (entry : String × Value) : Prop where
  key : '=' ∉ entry.1.toList
  value : Value.coerce entry.2.display = entry.2

instance : DecidablePred Passes := fun entry =>
  decidable_of_iff ('=' ∉ entry.1.toList ∧ Value.coerce entry.2.display = entry.2)
    ⟨fun ⟨key, value⟩ => ⟨key, value⟩, fun ⟨key, value⟩ => ⟨key, value⟩⟩

variable {entries : List (String × Value)}

theorem addPairs_map_writePair (passes : ∀ entry ∈ entries, Passes entry) :
    addPairs bag (entries.map writePair) = .ok (bag.insertMany entries) := by
  induction entries generalizing bag with
  | nil => rw [List.map_nil, addPairs, Std.ExtTreeMap.insertMany_nil]
  | cons entry entries ih =>
    obtain ⟨first, others⟩ := List.forall_mem_cons.mp passes
    have gives : Gives (writePair entry) entry.1 entry.2.display := ⟨rfl, first.key⟩
    rw [List.map_cons, addPairs_of_gives gives, first.value, ih others,
      Std.ExtTreeMap.insertMany_cons]

theorem insertMany_of_perm (same : entries.Perm bag.toList) :
    (∅ : Bag).insertMany entries = bag := by
  have distinct : entries.Pairwise fun a b => ¬ compare a.1 b.1 = .eq :=
    same.symm.pairwise bag.distinct_keys_toList fun apart equal =>
      apart (Std.OrientedCmp.eq_symm equal)
  apply Std.ExtTreeMap.ext_getElem?
  intro key
  cases found : bag[key]? with
  | some value =>
    have member : (key, value) ∈ entries :=
      same.mem_iff.mpr (Std.ExtTreeMap.mem_toList_iff_getElem?_eq_some.mpr found)
    exact Std.ExtTreeMap.getElem?_insertMany_list_of_mem Std.ReflCmp.compare_self distinct member
  | none =>
    have unused : (entries.map Prod.fst).contains key = false := by
      rw [List.contains_eq_mem, decide_eq_false_iff_not, List.mem_map]
      rintro ⟨⟨key, value⟩, member, rfl⟩
      have held := Std.ExtTreeMap.mem_toList_iff_getElem?_eq_some.mp (same.mem_iff.mp member)
      cases found.symm.trans held
    rw [Std.ExtTreeMap.getElem?_insertMany_list_of_contains_eq_false unused]
    exact Std.ExtTreeMap.getElem?_empty

/-! ## What the pairs make -/

/-- Pairs make a bag unless a text among them has no equals sign; then the first such text is what
the error names.  The keys of the bag are those of the pairs, and each has the value that its last
pair gives.  A bag whose keys have no equals sign and whose values are read back from their writing
is made again from its entries, in whatever order they are passed. -/
theorem parseData_keeps_last :
    (∀ pairs,
      ((∃ bag, parseData pairs = .ok bag) ↔ ∀ pair ∈ pairs, '=' ∈ pair.toList) ∧
      (∀ e, parseData pairs = .error e ↔ FirstRefusal Refuses pairs e) ∧
      ∀ bag, parseData pairs = .ok bag →
        (∀ key, key ∈ bag ↔ ∃ pair ∈ pairs, ∃ text, Gives pair key text) ∧
        ∀ key value, bag[key]? = some value ↔
          ∃ text, LastGives key text pairs ∧ value = .coerce text) ∧
    ∀ bag : Bag, (∀ entry ∈ bag.toList, Passes entry) → ∀ entries : List (String × Value),
      entries.Perm bag.toList → parseData (entries.map writePair) = .ok bag := by
  refine ⟨fun pairs => ⟨?_, fun e => ?_, fun bag ends => ?_⟩, fun bag passes entries same => ?_⟩
  · rw [exists_ok_iff]
    simp only [ne_eq, parseData, addPairs_eq_error_iff, forall_not_firstRefusal_iff,
      forall_not_refuses_iff]
  · exact addPairs_eq_error_iff
  · have found (key : String) (value : Value) : bag[key]? = some value ↔
        ∃ text, LastGives key text pairs ∧ value = .coerce text := by
      rw [getElem?_of_addPairs ends]
      simp
    refine ⟨fun key => ?_, found⟩
    rw [← exists_lastGives_iff, Std.ExtTreeMap.mem_iff_isSome_getElem?, Option.isSome_iff_exists]
    simp only [found]
    constructor
    · rintro ⟨-, text, last, -⟩
      exact ⟨text, last⟩
    · rintro ⟨text, last⟩
      exact ⟨_, text, last, rfl⟩
  · have passes : ∀ entry ∈ entries, Passes entry := fun entry member =>
      passes entry (same.mem_iff.mp member)
    rw [parseData, addPairs_map_writePair passes, insertMany_of_perm same]

theorem parseData_keeps_last_repeated :
    let pairs := ["id=1", "=x", "q=a=b", "id=007"]
    let entries : List (String × Value) := [("q", .text "a=b"), ("id", .int 7), ("", .text "x")]
    let bag : Bag := (∅ : Bag).insertMany entries
    parseData pairs = .ok bag ∧
      (∀ key, key ∈ bag ↔ ∃ pair ∈ pairs, ∃ text, Gives pair key text) ∧
      (∃ text, LastGives "id" text pairs ∧ .int 7 = Value.coerce text) ∧
      (∀ entry ∈ bag.toList, Passes entry) ∧ entries.Perm bag.toList ∧
      parseData (entries.map writePair) = .ok bag ∧
      parseData ["id=1", "tab", "user"] = .error (.badPair "tab") := by
  intro pairs entries bag
  have ends : parseData pairs = .ok bag := by rfl
  have passes : ∀ entry ∈ bag.toList, Passes entry := by decide
  have same : entries.Perm bag.toList := by decide
  obtain ⟨made, again⟩ := parseData_keeps_last
  obtain ⟨keys, values⟩ := (made pairs).2.2 bag ends
  refine ⟨ends, keys, (values "id" (.int 7)).mp (by decide), passes, same,
    again bag passes entries same, ?_⟩
  have signed : '=' ∈ "id=1".toList := by decide
  have unsigned : '=' ∉ "tab".toList := by decide
  exact ((made _).2.1 _).mpr (.later (fun e refused => refused.1 signed) (.here ⟨unsigned, rfl⟩))

end PathRouting.CommandLine
