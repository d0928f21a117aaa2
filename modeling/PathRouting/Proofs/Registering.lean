import Mathlib.Data.List.AList
import Mathlib.Data.List.Dedup
import Mathlib.Data.List.Induction
import PathRouting.Proofs.Loading.Checks
import PathRouting.Proofs.Text.ByteOrder

/-!
# What a registry remembers

A registry knows the last registration of each URL and nothing else of the registrations that made
it: neither their order nor those that were overwritten.  Wherever it lists its URLs they are sorted
by their bytes, so the order in which a table would go through its entries does not show either.
-/

namespace PathRouting.Registry

open PathRouting.Text

variable {τ η : Type}

/-- The type of the last registration of a URL. -/
def last? (registrations : List (τ × String)) (typeUrl : String) : Option τ :=
  (registrations.reverse.find? (·.2 == typeUrl)).map (·.1)

/-- A table of handler types by URL, whose entries lie in an order of its own. -/
abbrev Table (τ : Type) := AList fun _ : String => τ

namespace Table

def typeUrls (table : Table τ) : List String :=
  table.keys.mergeSort (· ≤ ·)

variable [HandlerTypes τ η]

/-- Makes a handler with the type that the table has for its URL. -/
def resolve (table : Table τ) (config : HandlerConfig) : Except RouteError η :=
  match table.lookup config.typeUrl with
  | some type => HandlerTypes.build type config.typeUrl config.config
  | none => .error (.unknownTypeUrl config.typeUrl (typeUrls table))

def loadRoute (table : Table τ) (engine : Regex.Engine) (config : RouteConfig) :
    Except RouteError (LoadedRoute η) := do
  let source ← config.source engine
  let handler ← resolve table config.handler
  let matcher ← (Matcher.compile source).mapError .pattern
  return ⟨config.name, source, handler, matcher⟩

def loadRouter (table : Table τ) (engine : Regex.Engine) (config : RouterConfig) :
    Except RouteError (List (LoadedRoute η)) :=
  if RouteError.maxRoutes < config.routes.length then
    .error (.tooManyRoutes config.routes.length)
  else config.routes.mapM (loadRoute table engine)

end Table

variable {registrations others : List (τ × String)} {typeUrl : String}

/-! ## The last registration -/

theorem isSome_last? : (last? registrations typeUrl).isSome = true ↔
    ∃ type, (type, typeUrl) ∈ registrations := by
  simp [last?]

theorem getElem?_types_ofList :
    (ofList registrations).types[typeUrl]? = last? registrations typeUrl := by
  -- The last registration is the last that is inserted, so the list is taken apart at its end.
  induction registrations using List.reverseRecOn with
  | nil => simp [ofList, last?]
  | append_singleton earlier final ih =>
    simp only [ofList, last?, List.foldl_append, List.foldl_cons, List.foldl_nil,
      Std.ExtTreeMap.getElem?_insert, compare_eq_iff_eq, List.reverse_append,
      List.reverse_singleton, List.singleton_append, List.find?_cons] at ih ⊢
    by_cases same : final.2 = typeUrl
    · simp [same]
    · simp [same, beq_false_of_ne same, ih]

theorem contains_ofList : (ofList registrations).contains typeUrl = true ↔
    ∃ type, (type, typeUrl) ∈ registrations := by
  rw [contains, Std.ExtTreeMap.contains_eq_isSome_getElem?, getElem?_types_ofList, isSome_last?]

theorem ofList_congr (same : ∀ typeUrl, last? registrations typeUrl = last? others typeUrl) :
    ofList registrations = ofList others := by
  have types : (ofList registrations).types = (ofList others).types :=
    Std.ExtTreeMap.ext_getElem? fun typeUrl => by
      rw [getElem?_types_ofList, getElem?_types_ofList, same]
  exact congrArg Registry.mk types

/-! ## The list of URLs -/

theorem nodup_typeUrls (registry : Registry τ) : registry.typeUrls.Nodup :=
  typeUrls_sorted.imp ne_of_lt

theorem size_ofList :
    (ofList registrations).size = (registrations.map (·.2)).dedup.length := by
  have same : (ofList registrations).typeUrls.Perm (registrations.map (·.2)).dedup := by
    rw [List.perm_ext_iff_of_nodup (nodup_typeUrls _) (List.nodup_dedup _)]
    intro typeUrl
    rw [mem_typeUrls_iff, contains_ofList]
    simp
  rw [← same.length_eq, size, typeUrls, Std.ExtTreeMap.length_keys]

namespace Table

variable {table : Table τ} (holds : ∀ typeUrl, table.lookup typeUrl = last? registrations typeUrl)
include holds

theorem mem_keys_iff : typeUrl ∈ table.keys ↔ typeUrl ∈ (ofList registrations).typeUrls := by
  rw [← AList.mem_keys, ← AList.lookup_isSome, holds, isSome_last?, mem_typeUrls_iff,
    contains_ofList]

/-- Sorting undoes the order of the entries. -/
theorem typeUrls_eq : typeUrls table = (ofList registrations).typeUrls := by
  have same : (typeUrls table).Perm (ofList registrations).typeUrls := by
    refine (List.mergeSort_perm _ _).trans ?_
    rw [List.perm_ext_iff_of_nodup table.keys_nodup (nodup_typeUrls _)]
    exact fun _ => mem_keys_iff holds
  exact same.eq_of_pairwise (fun _ _ _ _ => le_antisymm) (List.pairwise_mergeSort' _ _)
    (typeUrls_sorted.imp le_of_lt)

variable [HandlerTypes τ η]

theorem resolve_eq (config : HandlerConfig) :
    resolve table config = (ofList registrations).resolve config := by
  cases last : last? registrations config.typeUrl <;>
    simp only [resolve, Registry.resolve, holds, typeUrls_eq holds, getElem?_types_ofList, last]

theorem loadRoute_eq (engine : Regex.Engine) :
    loadRoute table engine = (ofList registrations).loadRoute engine := by
  funext config
  simp only [loadRoute, Registry.loadRoute, resolve_eq holds]

theorem loadRouter_eq (engine : Regex.Engine) :
    loadRouter table engine = (ofList registrations).loadRouter engine := by
  funext config
  simp only [loadRouter, Registry.loadRouter, loadRoute_eq holds]

end Table

/-- Whatever types of handlers there are, a registry has the URLs that were registered, lists them
in the order of their bytes, each once, and has their number as its size.  A table with the last
registrations, in whatever order its entries lie, lists the same URLs and loads every configuration
of a router or a route as the same, or refuses it for the same error; and so does every registry
with the same last registrations. -/
theorem registry_keeps_last [HandlerTypes τ η] (engine : Regex.Engine)
    (registrations : List (τ × String)) :
    let registry := ofList registrations
    (∀ typeUrl, registry.contains typeUrl = true ↔ ∃ type, (type, typeUrl) ∈ registrations) ∧
    registry.typeUrls.Pairwise (fun a b => utf8 a < utf8 b) ∧
    (∀ typeUrl, typeUrl ∈ registry.typeUrls ↔ ∃ type, (type, typeUrl) ∈ registrations) ∧
    registry.size = (registrations.map (·.2)).dedup.length ∧
    (∀ table : Table τ, (∀ typeUrl, table.lookup typeUrl = last? registrations typeUrl) →
      Table.typeUrls table = registry.typeUrls ∧
      (∀ config, Table.loadRouter table engine config = registry.loadRouter engine config) ∧
      ∀ config, Table.loadRoute table engine config = registry.loadRoute engine config) ∧
    ∀ others, (∀ typeUrl, last? registrations typeUrl = last? others typeUrl) →
      (∀ config, registry.loadRouter engine config = (ofList others).loadRouter engine config) ∧
      (∀ config, registry.loadRoute engine config = (ofList others).loadRoute engine config) ∧
      registry.inspect = (ofList others).inspect := by
  intro registry
  refine ⟨fun typeUrl => contains_ofList, typeUrls_sorted.imp utf8_lt_utf8,
    fun typeUrl => mem_typeUrls_iff.trans contains_ofList, size_ofList,
    fun table holds => ⟨Table.typeUrls_eq holds, ?_, ?_⟩, fun others same => ?_⟩
  · exact congrFun (Table.loadRouter_eq holds engine)
  · exact congrFun (Table.loadRoute_eq holds engine)
  · have same : registry = ofList others := ofList_congr same
    exact ⟨fun config => by rw [same], fun config => by rw [same], by rw [same]⟩

theorem registry_keeps_last_overwritten :
    let engine : Regex.Engine := fun _ => .ok fun _ => some ("", [])
    let registrations := [(HandlerType.reject, "é"), (.echo, "a"), (.fail, "é")]
    let others := [(HandlerType.fail, "é"), (.constant, "a"), (.echo, "a")]
    let table : Table HandlerType := ⟨[⟨"é", .fail⟩, ⟨"a", .echo⟩], by simp [List.NodupKeys]⟩
    let unknown : RouteConfig := ⟨none, none, some "", ⟨"b", .null⟩⟩
    (∀ typeUrl, table.lookup typeUrl = last? registrations typeUrl) ∧
      (∀ typeUrl, last? registrations typeUrl = last? others typeUrl) ∧
      Table.typeUrls table = (ofList registrations).typeUrls ∧
      Table.loadRoute table engine unknown = (ofList registrations).loadRoute engine unknown ∧
      (ofList registrations).loadRoute engine unknown = (ofList others).loadRoute engine unknown ∧
      (ofList registrations).size = 2 := by
  intro engine registrations others table unknown
  have agree (typeUrl : String) : table.lookup typeUrl = last? registrations typeUrl ∧
      last? registrations typeUrl = last? others typeUrl := by
    by_cases isA : "a" = typeUrl
    · subst isA
      exact ⟨rfl, rfl⟩
    by_cases isE : "é" = typeUrl
    · subst isE
      exact ⟨rfl, rfl⟩
    have notA := beq_false_of_ne isA
    have notE := beq_false_of_ne isE
    have missing : table.lookup typeUrl = none := by
      rw [AList.lookup, List.dlookup_cons_ne _ _ (Ne.symm isE),
        List.dlookup_cons_ne _ _ (Ne.symm isA), List.dlookup_nil]
    rw [missing]
    simp [registrations, others, last?, notA, notE]
  have holds := fun typeUrl => (agree typeUrl).1
  have same := fun typeUrl => (agree typeUrl).2
  obtain ⟨-, -, -, size, orderless, alike⟩ := registry_keeps_last engine registrations
  obtain ⟨typeUrls, -, loads⟩ := orderless table holds
  exact ⟨holds, same, typeUrls, loads unknown, (alike others same).2.1 unknown, size⟩

end PathRouting.Registry
