import Mathlib.Data.List.Nodup
import Mathlib.Data.List.Perm.Basic
import PathRouting.Config.Decoding
import PathRouting.Proofs.Fallible

/-!
# Records of a document

A record has its fields, some of which may be left out, and it is written as an object or as an
array.  Either way the document gives each of some fields once, and reading the record is filling a
draft with what is given, one field after the other.  In the end every field of the draft is what
was read for it, or else what it was before, whatever the order.
-/

namespace PathRouting

variable {δ α β : Type}

/-! ## Texts and lists -/

namespace Json

theorem text_eq_ok_iff {j : Json} {s : String} : j.text .strict = .ok s ↔ j = .string s := by
  cases j <;> simp [text]

theorem list_eq_ok_iff {item : Json → Except DecodeError α} {j : Json} {results : List α} :
    j.list item = .ok results ↔ ∃ items, j = .array items ∧
      List.Forall₂ (fun j result => item j = .ok result) items results := by
  cases j <;> simp [list, mapM_eq_ok_iff]

/-- A field that may be left out or null spells a text or none. -/
inductive SpellsOptional : Option Json → Option String → Prop where
  | absent : SpellsOptional none none
  | null : SpellsOptional (some .null) none
  | text (s : String) : SpellsOptional (some (.string s)) (some s)

theorem optionalText_eq_ok_iff {j : Json} {s : Option String} :
    j.optionalText .strict = .ok s ↔ SpellsOptional (some j) s := by
  constructor
  · intro reads
    cases j with
    | null =>
      obtain rfl := Except.ok.inj reads
      exact .null
    | string text =>
      obtain rfl := Except.ok.inj reads
      exact .text text
    | bool | number | array | object => cases reads
  · rintro (_ | _ | _) <;> rfl

theorem SpellsOptional.unique {item : Option Json} {s s' : Option String}
    (spells : SpellsOptional item s) (spells' : SpellsOptional item s') : s = s' := by
  cases spells <;> cases spells' <;> rfl

end Json

namespace RecordShape

/-! ## Ways to write a record -/

/-- The members of an object with the fields that are not left out. -/
def written (fields : List (String × Option Json)) : List (String × Json) :=
  fields.filterMap fun (field, item) => item.map fun j => (field, j)

/-- The documents with some fields: objects that have them in any order, and arrays of them in their
declared order.  In an array only fields at the end can be left out. -/
inductive Spells (fields : List (String × Option Json)) : Json → Prop where
  | object {members : List (String × Json)} (ordered : members.Perm (written fields)) :
      Spells fields (.object members)
  | array {items : List Json} {left : Nat}
      (declared : fields.map (·.2) = items.map some ++ List.replicate left none) :
      Spells fields (.array items)

/-- What a document gives of a closed record: the members of an object, or the items of an array
under the names of the first fields. -/
inductive Gives (shape : RecordShape) : Json → List (String × Json) → Prop where
  | object {members : List (String × Json)} (distinct : (members.map (·.1)).Nodup)
      (known : ∀ member ∈ members, member.1 ∈ shape.fields) : shape.Gives (.object members) members
  | array {items : List Json} (few : items.length ≤ shape.fields.length) :
      shape.Gives (.array items) (shape.fields.zip items)

/-- Puts the fields that are given into a draft, one after the other. -/
def fill (put : String → Json → δ → Except DecodeError δ) (draft : δ) :
    List (String × Json) → Except DecodeError δ
  | [] => .ok draft
  | (key, j) :: given => do fill put (← put key j draft) given

/-- `Has field item d` says what a draft `d` has in a field for which `item` is given, if anything.
Putting a field into a draft sets this field and leaves the others alone, and a draft is what it has
in its fields. -/
structure Tracks (shape : RecordShape) (put : String → Json → δ → Except DecodeError δ) (empty : δ)
    (Has : String → Option Json → δ → Prop) : Prop where
  empty : ∀ field ∈ shape.fields, Has field none empty
  own : ∀ field ∈ shape.fields, ∀ {j d d'}, put field j d = .ok d' → Has field (some j) d'
  other : ∀ key ∈ shape.fields, ∀ field ∈ shape.fields, key ≠ field → ∀ {j item d d'},
    put key j d = .ok d' → Has field item d → Has field item d'
  able : ∀ field ∈ shape.fields, ∀ {j d}, Has field (some j) d →
    ∀ draft, ∃ d', put field j draft = .ok d'
  unique : ∀ (items : String → Option Json) (d d' : δ),
    (∀ field ∈ shape.fields, Has field (items field) d) →
    (∀ field ∈ shape.fields, Has field (items field) d') → d = d'

variable {shape : RecordShape} {put : String → Json → δ → Except DecodeError δ}
  {fields : List (String × Option Json)} {given : List (String × Json)} {draft filled : δ}
  {field : String} {item : Option Json} {j : Json}

/-! ## The fields that are given -/

theorem mem_written_iff : (field, j) ∈ written fields ↔ (field, some j) ∈ fields := by
  simp [written]

theorem map_fst_written_sublist (fields : List (String × Option Json)) :
    ((written fields).map (·.1)).Sublist (fields.map (·.1)) := by
  induction fields with
  | nil => exact .slnil
  | cons entry fields ih =>
    obtain ⟨field, _ | j⟩ := entry
    · exact ih.cons field
    · exact ih.cons_cons field

/-- The items of an array stand for the first fields, and those are the ones that are given. -/
theorem zip_eq_written {items : List Json} {left : Nat}
    (declared : fields.map (·.2) = items.map some ++ List.replicate left none) :
    (fields.map (·.1)).zip items = written fields := by
  induction fields generalizing items left with
  | nil => simp [written]
  | cons entry fields ih =>
    obtain ⟨field, item⟩ := entry
    cases items with
    | nil =>
      cases left with
      | zero => cases declared
      | succ left =>
        obtain ⟨rfl, others⟩ := List.cons.inj declared
        simpa [written] using @ih [] left others
    | cons j items =>
      obtain ⟨rfl, others⟩ := List.cons.inj declared
      simp [written, ih others]

theorem lookup_eq_some_iff_mem (distinct : (given.map (·.1)).Nodup) :
    given.lookup field = some j ↔ (field, j) ∈ given := by
  rw [List.lookup_eq_some_iff]
  constructor
  · rintro ⟨before, after, rfl, -⟩
    simp
  · intro listed
    obtain ⟨before, after, rfl⟩ := List.append_of_mem listed
    refine ⟨before, after, rfl, fun member earlier => ?_⟩
    simp only [List.map_append, List.map_cons, List.nodup_append] at distinct
    exact bne_iff_ne.mpr (distinct.2.2 _ (List.mem_map_of_mem earlier) _ List.mem_cons_self).symm

theorem lookup_of_perm_written (distinct : (fields.map (·.1)).Nodup)
    (ordered : given.Perm (written fields)) {field : String} {item : Option Json}
    (listed : (field, item) ∈ fields) : given.lookup field = item := by
  have keys : (given.map (·.1)).Nodup := by
    rw [(ordered.map _).nodup_iff]
    exact distinct.sublist (map_fst_written_sublist fields)
  refine Option.ext fun j => ?_
  rw [lookup_eq_some_iff_mem keys, ordered.mem_iff, mem_written_iff]
  constructor
  · intro found
    exact (congrArg Prod.snd (List.inj_on_of_nodup_map distinct listed found rfl))
  · rintro rfl
    exact listed

theorem map_lookup_zip {names : List String} {items : List Json} (distinct : names.Nodup)
    (few : items.length ≤ names.length) : names.map (fun name => (names.zip items).lookup name) =
      items.map some ++ List.replicate (names.length - items.length) none := by
  induction names generalizing items with
  | nil => simp [List.length_eq_zero_iff.mp (Nat.le_zero.mp few)]
  | cons name names ih =>
    cases items with
    | nil => simp [List.map_const', List.replicate_succ]
    | cons j items =>
      have new := List.nodup_cons.mp distinct
      have others : names.map (fun other => ((name :: names).zip (j :: items)).lookup other) =
          names.map (fun other => (names.zip items).lookup other) := by
        refine List.map_congr_left fun other member => ?_
        have differs : other ≠ name := fun same => new.1 (same ▸ member)
        rw [List.zip_cons_cons, List.lookup_cons, beq_false_of_ne differs]
      rw [List.map_cons, others, ih new.2 (Nat.le_of_succ_le_succ few)]
      simp

theorem Gives.spells (gives : shape.Gives j given) (distinct : shape.fields.Nodup) :
    Spells (shape.fields.map fun field => (field, given.lookup field)) j := by
  cases gives with
  | object keys known =>
    let fields := shape.fields.map fun field => (field, given.lookup field)
    have named : fields.map (·.1) = shape.fields := by simp [fields, Function.comp_def]
    have once : ((written fields).map (·.1)).Nodup :=
      (named ▸ distinct).sublist (map_fst_written_sublist fields)
    refine .object ((List.perm_ext_iff_of_nodup (.of_map _ keys) (.of_map _ once)).mpr ?_)
    rintro ⟨field, j⟩
    rw [mem_written_iff, ← lookup_eq_some_iff_mem keys]
    simp only [fields, List.mem_map, Prod.mk.injEq]
    constructor
    · intro found
      exact ⟨field, known _ ((lookup_eq_some_iff_mem keys).mp found), rfl, found⟩
    · rintro ⟨_, -, rfl, found⟩
      exact found
  | @array items few =>
    refine @Spells.array _ items (shape.fields.length - items.length) ?_
    rw [List.map_map]
    exact map_lookup_zip distinct few

theorem Spells.exists_gives (spells : Spells fields j) (named : fields.map (·.1) = shape.fields)
    (distinct : shape.fields.Nodup) :
    ∃ given, shape.Gives j given ∧ ∀ entry ∈ fields, given.lookup entry.1 = entry.2 := by
  have distinct := named ▸ distinct
  cases spells with
  | @object members ordered =>
    refine ⟨members, .object ?_ fun member listed => ?_,
      fun entry => lookup_of_perm_written distinct ordered⟩
    · rw [(ordered.map _).nodup_iff]
      exact distinct.sublist (map_fst_written_sublist fields)
    · rw [← named]
      exact (map_fst_written_sublist fields).subset
        (List.mem_map_of_mem (ordered.mem_iff.mp listed))
  | @array items left declared =>
    have few : items.length ≤ shape.fields.length := by
      have long := congrArg List.length declared
      simp only [← named, List.length_map, List.length_append] at long ⊢
      omega
    refine ⟨shape.fields.zip items, .array few, fun entry => ?_⟩
    rw [← named, zip_eq_written declared]
    exact lookup_of_perm_written distinct (.refl _)

theorem map_fst_zip_sublist (names : List String) (items : List Json) :
    ((names.zip items).map (·.1)).Sublist names := by
  induction names generalizing items with
  | nil => simp
  | cons name names ih =>
    cases items with
    | nil => simp
    | cons j items => exact (ih items).cons_cons name

theorem Gives.distinct (gives : shape.Gives j given) (distinct : shape.fields.Nodup) :
    (given.map (·.1)).Nodup := by
  cases gives with
  | object keys _ => exact keys
  | array _ => exact distinct.sublist (map_fst_zip_sublist _ _)

theorem Gives.known (gives : shape.Gives j given) :
    ∀ member ∈ given, member.1 ∈ shape.fields := by
  cases gives with
  | object _ known => exact known
  | array _ => exact fun member listed => (List.of_mem_zip listed).1

/-! ## Reading is filling -/

theorem readMembers_eq_ok_iff (closed : shape.closed = true) (seen : List String) :
    shape.readMembers put seen draft given = .ok filled ↔
      (given.map (·.1)).Nodup ∧ (∀ member ∈ given, member.1 ∈ shape.fields ∧ member.1 ∉ seen) ∧
        fill put draft given = .ok filled := by
  induction given generalizing seen draft with
  | nil => simp [readMembers, fill]
  | cons member given ih =>
    obtain ⟨key, j⟩ := member
    by_cases known : key ∈ shape.fields
    · by_cases repeated : key ∈ seen
      · simp [readMembers, known, repeated]
      · simp only [readMembers, known, repeated, if_true, if_false, fill, bind_eq_ok_iff, ih,
          List.map_cons, List.nodup_cons, List.mem_cons, forall_eq_or_imp, not_or]
        -- A key is new if it was not seen and none of the keys behind it is the same.
        constructor
        · rintro ⟨next, puts, distinct, others, fills⟩
          refine ⟨⟨fun again => ?_, distinct⟩, ⟨⟨trivial, not_false⟩, fun member listed => ?_⟩,
            next, puts, fills⟩
          · obtain ⟨member, listed, same⟩ := List.mem_map.mp again
            exact (others member listed).2.1 same
          · exact ⟨(others member listed).1, (others member listed).2.2⟩
        · rintro ⟨⟨new, distinct⟩, ⟨-, others⟩, next, puts, fills⟩
          refine ⟨next, puts, distinct, fun member listed => ?_, fills⟩
          have differs : member.1 ≠ key := fun same => new (same ▸ List.mem_map_of_mem listed)
          exact ⟨(others member listed).1, differs, (others member listed).2⟩
    · simp [readMembers, known, closed]

theorem readItems_eq_fill (draft : δ) (names : List String) (items : List Json) :
    readItems put draft names items = fill put draft (names.zip items) := by
  induction names generalizing draft items with
  | nil => simp [readItems, fill]
  | cons name names ih =>
    cases items with
    | nil => rfl
    | cons j items => simp only [readItems, List.zip_cons_cons, fill, ih]

/-- A closed record is read from exactly the documents that give some of its fields with which the
draft can be filled and finished. -/
theorem read_eq_ok_iff_fill (closed : shape.closed = true)
    {finish : (String → DecodeError) → δ → Except DecodeError α} {record : α}
    (finishes : ∀ missing missing' d,
      finish missing d = .ok record → finish missing' d = .ok record) :
    shape.read .strict draft put finish j = .ok record ↔
      ∃ given filled, shape.Gives j given ∧ fill put draft given = .ok filled ∧
        finish .missingField filled = .ok record := by
  cases j with
  | object members =>
    simp only [read, bind_eq_ok_iff, readMembers_eq_ok_iff closed]
    constructor
    · rintro ⟨filled, ⟨distinct, known, fills⟩, ends⟩
      exact ⟨members, filled, .object distinct fun member listed => (known member listed).1, fills,
        ends⟩
    · rintro ⟨_, filled, gives, fills, ends⟩
      cases gives with
      | object distinct known =>
        refine ⟨filled, ⟨distinct, fun member listed => ⟨known member listed, ?_⟩, fills⟩, ends⟩
        exact List.not_mem_nil
  | array items =>
    have strict : ¬ Json.Dialect.strict = .yaml := by decide
    simp only [read, strict, if_false, readItems_eq_fill, bind_eq_ok_iff]
    constructor
    · rintro ⟨filled, fills, record', ends, rest⟩
      split at rest
      · cases rest
      · next few =>
        obtain rfl := Except.ok.inj rest
        exact ⟨_, filled, .array (Nat.not_lt.mp few), fills, finishes _ _ _ ends⟩
    · rintro ⟨_, filled, gives, fills, ends⟩
      cases gives with
      | array few =>
        exact ⟨filled, fills, record, finishes _ _ _ ends, if_neg (Nat.not_lt.mpr few)⟩
  | null | bool | number | string =>
    refine iff_of_false nofun ?_
    rintro ⟨_, _, ⟨⟩, _⟩

/-- A draft can be filled if everything that is given can be put into any draft. -/
theorem exists_fill (gives : shape.Gives j given) (distinct : shape.fields.Nodup)
    (puts : ∀ field ∈ shape.fields, ∀ j, given.lookup field = some j →
      ∀ d, ∃ d', put field j d = .ok d') :
    ∃ filled, fill put draft given = .ok filled := by
  have each (member) (listed : member ∈ given) (d : δ) : ∃ d', put member.1 member.2 d = .ok d' :=
    puts member.1 (gives.known member listed) member.2
      ((lookup_eq_some_iff_mem (gives.distinct distinct)).mpr listed) d
  clear gives puts
  induction given generalizing draft with
  | nil => exact ⟨draft, rfl⟩
  | cons member given ih =>
    rw [List.forall_mem_cons] at each
    obtain ⟨d, first⟩ := each.1 draft
    obtain ⟨filled, rest⟩ := ih each.2
    exact ⟨filled, bind_eq_ok_iff.mpr ⟨d, first, rest⟩⟩

/-! ## What a filled draft has -/

namespace Tracks

variable {Has : String → Option Json → δ → Prop} {empty : δ}

/-- A field that is given is set, and one that is not given stays as it is. -/
theorem has_of_fill (tracks : shape.Tracks put empty Has) (distinct : (given.map (·.1)).Nodup)
    (known : ∀ member ∈ given, member.1 ∈ shape.fields) (listed : field ∈ shape.fields)
    (fills : fill put draft given = .ok filled) :
    (∀ j, given.lookup field = some j → Has field (some j) filled) ∧
      (given.lookup field = none → ∀ item, Has field item draft → Has field item filled) := by
  induction given generalizing draft with
  | nil =>
    obtain rfl := Except.ok.inj fills
    exact ⟨nofun, fun _ _ has => has⟩
  | cons member given ih =>
    obtain ⟨key, j⟩ := member
    obtain ⟨d, first, rest⟩ := bind_eq_ok_iff.mp fills
    rw [List.map_cons, List.nodup_cons] at distinct
    rw [List.forall_mem_cons] at known
    obtain ⟨set, stays⟩ := ih distinct.2 known.2 rest
    by_cases same : key = field
    · subst same
      have absent : given.lookup key = none := by
        rw [List.lookup_eq_none_iff]
        exact fun member again => bne_iff_ne.mpr fun same =>
          distinct.1 (List.mem_map.mpr ⟨member, again, same.symm⟩)
      rw [List.lookup_cons_self]
      refine ⟨fun _ found => ?_, nofun⟩
      rw [← found]
      exact stays absent _ (tracks.own key listed first)
    · rw [List.lookup_cons, beq_false_of_ne (Ne.symm same)]
      exact ⟨set, fun absent item has =>
        stays absent item (tracks.other key known.1 field listed same first has)⟩

theorem fill_eq_ok_iff (tracks : shape.Tracks put empty Has) (gives : shape.Gives j given)
    (distinct : shape.fields.Nodup) :
    fill put empty given = .ok filled ↔
      ∀ field ∈ shape.fields, Has field (given.lookup field) filled := by
  have has {d : δ} (fills : fill put empty given = .ok d) (field) (listed : field ∈ shape.fields) :
      Has field (given.lookup field) d := by
    obtain ⟨set, stays⟩ := tracks.has_of_fill (gives.distinct distinct) gives.known listed fills
    cases found : given.lookup field with
    | some j => exact set j found
    | none => exact stays found none (tracks.empty field listed)
  refine ⟨has, fun expected => ?_⟩
  have puts (field) (listed : field ∈ shape.fields) (j) (found : given.lookup field = some j) (d) :
      ∃ d', put field j d = .ok d' :=
    tracks.able field listed (found ▸ expected field listed) d
  obtain ⟨d, fills⟩ := exists_fill gives distinct puts
  rw [fills, tracks.unique _ _ _ (has fills) expected]

/-- A closed record is read from the documents that spell its fields. -/
theorem read_eq_ok_iff (tracks : shape.Tracks put empty Has) (distinct : shape.fields.Nodup)
    (closed : shape.closed = true)
    {finish : (String → DecodeError) → δ → Except DecodeError α} {record : α}
    (finishes : ∀ missing missing' d,
      finish missing d = .ok record → finish missing' d = .ok record) :
    shape.read .strict empty put finish j = .ok record ↔
      ∃ items filled, List.Forall₂ (fun field item => Has field item filled) shape.fields items ∧
        Spells (shape.fields.zip items) j ∧ finish .missingField filled = .ok record := by
  rw [read_eq_ok_iff_fill closed finishes]
  constructor
  · rintro ⟨given, filled, gives, fills, ends⟩
    refine ⟨shape.fields.map (given.lookup ·), filled, ?_, ?_, ends⟩
    · rw [List.forall₂_map_right_iff, List.forall₂_same]
      exact (tracks.fill_eq_ok_iff gives distinct).mp fills
    · rw [← List.map_prod_left_eq_zip]
      exact gives.spells distinct
  · rintro ⟨items, filled, has, spells, ends⟩
    have long : shape.fields.length ≤ items.length := Nat.le_of_eq has.length_eq
    obtain ⟨given, gives, found⟩ := spells.exists_gives (List.map_fst_zip long) distinct
    refine ⟨given, filled, gives, (tracks.fill_eq_ok_iff gives distinct).mpr ?_, ends⟩
    intro field listed
    rw [← List.map_fst_zip long] at listed
    obtain ⟨⟨field, item⟩, member, rfl⟩ := List.mem_map.mp listed
    rw [found _ member]
    exact List.forall₂_zip has member

end Tracks

end RecordShape

end PathRouting
