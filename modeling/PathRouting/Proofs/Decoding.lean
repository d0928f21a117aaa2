import Mathlib.Data.List.Forall2
import PathRouting.Proofs.Decoding.Records
import PathRouting.Proofs.Decoding.Sorting
import PathRouting.Proofs.Loading.Checks

/-!
# What configurations are decoded from

A configuration has many spellings: its records are objects or arrays, objects have their members in
any order, and what may be null may be left out.  Exactly these spellings are accepted, and each is
decoded to the configuration it spells.
-/

namespace PathRouting

/-! ## Spellings -/

/-- A handler has the URL of its type and any configuration, or the empty object if there is none.
What is kept of a configuration is sorted. -/
inductive HandlerConfig.Spells : Json → HandlerConfig → Prop where
  | intro {j : Json} {typeUrl : String} {config : Option Json}
      (record : RecordShape.Spells [("type_url", some (.string typeUrl)), ("config", config)] j) :
      Spells j ⟨typeUrl, (config.map Json.sorted).getD (.object [])⟩

/-- A route has a handler; its other fields are texts, null or left out. -/
inductive RouteConfig.Spells : Json → RouteConfig → Prop where
  | intro {j handlerItem : Json} {nameItem patternItem regexItem : Option Json}
      {name pattern regex : Option String} {handler : HandlerConfig}
      (named : Json.SpellsOptional nameItem name)
      (patterned : Json.SpellsOptional patternItem pattern)
      (regexed : Json.SpellsOptional regexItem regex)
      (handled : HandlerConfig.Spells handlerItem handler)
      (record : RecordShape.Spells [("name", nameItem), ("pattern", patternItem),
        ("regex", regexItem), ("handler", some handlerItem)] j) :
      Spells j ⟨name, pattern, regex, handler⟩

/-- A router has an array of routes. -/
inductive RouterConfig.Spells : Json → RouterConfig → Prop where
  | intro {j : Json} {items : List Json} {routes : List RouteConfig}
      (each : List.Forall₂ RouteConfig.Spells items routes)
      (record : RecordShape.Spells [("routes", some (.array items))] j) : Spells j ⟨routes⟩

/-- The configurations of each type of handlers, and what they configure. -/
inductive HandlerType.Spells : HandlerType → Json → Reply → Prop where
  | echo {j : Json} {label : String}
      (record : RecordShape.Spells [("label", some (.string label))] j) :
      Spells echo j (.echo label)
  | unlabelled {j : Json} (record : RecordShape.Spells [("label", none)] j) :
      Spells echo j (.echo "")
  | constant {j : Json} {text : String}
      (record : RecordShape.Spells [("value", some (.string text))] j) :
      Spells constant j (.constant text)
  | fail {j : Json} {message : String}
      (record : RecordShape.Spells [("message", some (.string message))] j) :
      Spells fail j (.fail message)
  | reject (j : Json) : Spells reject j .reject

/-! ## What is required -/

theorem required_eq_ok_iff {α : Type} {missing : String → DecodeError} {field : String}
    {item : Option α} {a : α} : required missing field item = .ok a ↔ item = some a := by
  cases item <;> simp

theorem rel_unique {α β : Type} {R : α → β → Prop} (unique : ∀ a b b', R a b → R a b' → b = b')
    {item : Option α} {x y : Option β} (left : Option.Rel R item x) (right : Option.Rel R item y) :
    x = y := by
  cases left with
  | none =>
    cases right
    rfl
  | some one =>
    cases right with
    | some other => rw [unique _ _ _ one other]

/-! ## Handlers -/

namespace HandlerConfig

variable {j : Json} {config : HandlerConfig}

theorem nodup_fields : shape.fields.Nodup := by decide

theorem mem_fields_iff {field : String} :
    field ∈ shape.fields ↔ field = "type_url" ∨ field = "config" := by
  simp [shape]

def Draft.Has (field : String) (item : Option Json) (d : Draft) : Prop :=
  if field = "type_url" then item = d.typeUrl.map Json.string
  else d.config = item.map Json.sorted

theorem Draft.put_eq_ok_iff {field : String} {d d' : Draft} : put .strict field j d = .ok d' ↔
    if field = "type_url" then ∃ text, j = .string text ∧ d' = { d with typeUrl := some text }
    else d' = { d with config := some j.sorted } := by
  unfold put
  split_ifs
  · rw [bind_pure_eq_ok_iff]
    simp only [Json.text_eq_ok_iff]
  · exact ⟨fun puts => (Except.ok.inj puts).symm, fun same => congrArg Except.ok same.symm⟩

theorem Draft.has_tracks : shape.Tracks (put .strict) ⟨none, none⟩ Has where
  empty field _ := by
    unfold Has
    split_ifs <;> rfl
  own field _ j d d' puts := by
    rw [put_eq_ok_iff] at puts
    unfold Has
    split_ifs at puts ⊢
    · obtain ⟨text, rfl, rfl⟩ := puts
      rfl
    · rw [puts]
      rfl
  other key known field listed differs j item d d' puts has := by
    rw [mem_fields_iff] at known listed
    rw [put_eq_ok_iff] at puts
    obtain rfl | rfl := known <;> obtain rfl | rfl := listed
    · exact absurd rfl differs
    · obtain ⟨text, -, rfl⟩ := puts
      exact has
    · obtain rfl := puts
      exact has
    · exact absurd rfl differs
  able field _ j d has draft := by
    simp only [put_eq_ok_iff]
    unfold Has at has
    split_ifs at has ⊢
    · obtain ⟨text, -, same⟩ := Option.map_eq_some_iff.mp has.symm
      exact ⟨_, text, same.symm, rfl⟩
    · exact ⟨_, rfl⟩
  unique items d d' has others := by
    have typeUrl : d.typeUrl.map Json.string = d'.typeUrl.map Json.string :=
      (has "type_url" (by decide)).symm.trans (others "type_url" (by decide))
    have config : d.config = d'.config :=
      (has "config" (by decide)).trans (others "config" (by decide)).symm
    have typeUrl : d.typeUrl = d'.typeUrl :=
      Option.map_injective (fun _ _ same => Json.string.inj same) typeUrl
    cases d
    cases d'
    exact congr (congrArg Draft.mk typeUrl) config

theorem Draft.finish_eq_ok_iff {missing : String → DecodeError} {d : Draft} :
    d.finish missing = .ok config ↔
      ∃ typeUrl, d.typeUrl = some typeUrl ∧ config = ⟨typeUrl, d.config.getD (.object [])⟩ := by
  rw [finish, bind_pure_eq_ok_iff]
  simp only [required_eq_ok_iff]

theorem decode_eq_ok_iff : decode .strict j = .ok config ↔ Spells j config := by
  have finishes (missing missing') (d : Draft) (ends : d.finish missing = .ok config) :
      d.finish missing' = .ok config :=
    Draft.finish_eq_ok_iff.mpr (Draft.finish_eq_ok_iff.mp ends)
  rw [decode, Draft.has_tracks.read_eq_ok_iff nodup_fields rfl finishes]
  constructor
  · rintro ⟨items, ⟨_, _⟩, has, record, ends⟩
    change List.Forall₂ _ ["type_url", "config"] items at has
    obtain _ | ⟨rfl, _ | ⟨rfl, ⟨⟩⟩⟩ := has
    obtain ⟨typeUrl, rfl, rfl⟩ := Draft.finish_eq_ok_iff.mp ends
    exact .intro record
  · rintro ⟨record⟩
    next typeUrl item =>
    exact ⟨_, ⟨some typeUrl, item.map Json.sorted⟩, .cons rfl (.cons rfl .nil), record, rfl⟩

theorem Spells.unique {config' : HandlerConfig} (spells : Spells j config)
    (spells' : Spells j config') : config = config' :=
  Except.ok.inj ((decode_eq_ok_iff.mpr spells).symm.trans (decode_eq_ok_iff.mpr spells'))

end HandlerConfig

/-! ## Routes -/

namespace RouteConfig

variable {j : Json} {config : RouteConfig}

theorem nodup_fields : shape.fields.Nodup := by decide

theorem mem_fields_iff {field : String} : field ∈ shape.fields ↔
    field = "name" ∨ field = "pattern" ∨ field = "regex" ∨ field = "handler" := by
  simp [shape]

def Draft.Has (field : String) (item : Option Json) (d : Draft) : Prop :=
  if field = "name" then Json.SpellsOptional item d.name
  else if field = "pattern" then Json.SpellsOptional item d.pattern
  else if field = "regex" then Json.SpellsOptional item d.regex
  else Option.Rel HandlerConfig.Spells item d.handler

theorem Draft.put_eq_ok_iff {field : String} {d d' : Draft} : put .strict field j d = .ok d' ↔
    if field = "name" then ∃ text, Json.SpellsOptional (some j) text ∧ d' = { d with name := text }
    else if field = "pattern" then
      ∃ text, Json.SpellsOptional (some j) text ∧ d' = { d with pattern := text }
    else if field = "regex" then
      ∃ text, Json.SpellsOptional (some j) text ∧ d' = { d with regex := text }
    else ∃ handler, HandlerConfig.Spells j handler ∧ d' = { d with handler := some handler } := by
  unfold put
  split_ifs <;> rw [bind_pure_eq_ok_iff] <;>
    simp only [Json.optionalText_eq_ok_iff, HandlerConfig.decode_eq_ok_iff]

theorem Draft.has_tracks : shape.Tracks (put .strict) ⟨none, none, none, none⟩ Has where
  empty field _ := by
    unfold Has
    split_ifs
    · exact .absent
    · exact .absent
    · exact .absent
    · exact .none
  own field _ j d d' puts := by
    rw [put_eq_ok_iff] at puts
    unfold Has
    split_ifs at puts ⊢ <;> obtain ⟨text, spells, rfl⟩ := puts
    · exact spells
    · exact spells
    · exact spells
    · exact .some spells
  other key known field listed differs j item d d' puts has := by
    rw [mem_fields_iff] at known listed
    rw [put_eq_ok_iff] at puts
    obtain rfl | rfl | rfl | rfl := known <;> obtain rfl | rfl | rfl | rfl := listed
    all_goals first
      | exact absurd rfl differs
      | obtain ⟨_, -, rfl⟩ := puts
        exact has
  able field _ j d has draft := by
    simp only [put_eq_ok_iff]
    unfold Has at has
    split_ifs at has ⊢
    · exact ⟨_, _, has, rfl⟩
    · exact ⟨_, _, has, rfl⟩
    · exact ⟨_, _, has, rfl⟩
    · match d.handler, has with
      | _, .some spells => exact ⟨_, _, spells, rfl⟩
  unique items d d' has others := by
    have name : d.name = d'.name :=
      (has "name" (by decide)).unique (others "name" (by decide))
    have pattern : d.pattern = d'.pattern :=
      (has "pattern" (by decide)).unique (others "pattern" (by decide))
    have regex : d.regex = d'.regex :=
      (has "regex" (by decide)).unique (others "regex" (by decide))
    have handled : Option.Rel HandlerConfig.Spells (items "handler") d.handler :=
      has "handler" (by decide)
    have handler : d.handler = d'.handler :=
      rel_unique (fun _ _ _ one other => one.unique other) handled (others "handler" (by decide))
    cases d
    cases d'
    simp only at name pattern regex handler
    rw [name, pattern, regex, handler]

theorem Draft.finish_eq_ok_iff {missing : String → DecodeError} {d : Draft} :
    d.finish missing = .ok config ↔
      ∃ handler, d.handler = some handler ∧ config = ⟨d.name, d.pattern, d.regex, handler⟩ := by
  rw [finish, bind_pure_eq_ok_iff]
  simp only [required_eq_ok_iff]

theorem decode_eq_ok_iff : decode .strict j = .ok config ↔ Spells j config := by
  have finishes (missing missing') (d : Draft) (ends : d.finish missing = .ok config) :
      d.finish missing' = .ok config :=
    Draft.finish_eq_ok_iff.mpr (Draft.finish_eq_ok_iff.mp ends)
  rw [decode, Draft.has_tracks.read_eq_ok_iff nodup_fields rfl finishes]
  constructor
  · rintro ⟨items, ⟨_, _, _, _⟩, has, record, ends⟩
    change List.Forall₂ _ ["name", "pattern", "regex", "handler"] items at has
    obtain _ | ⟨named, _ | ⟨patterned, _ | ⟨regexed, _ | ⟨handled, ⟨⟩⟩⟩⟩⟩ := has
    obtain ⟨handler, rfl, rfl⟩ := Draft.finish_eq_ok_iff.mp ends
    cases handled with
    | some spells => exact .intro named patterned regexed spells record
  · rintro ⟨named, patterned, regexed, handled, record⟩
    exact ⟨_, ⟨_, _, _, some _⟩, .cons named (.cons patterned (.cons regexed
      (.cons (.some handled) .nil))), record, rfl⟩

end RouteConfig

/-! ## Routers -/

namespace RouterConfig

variable {j : Json} {config : RouterConfig} {routes : List RouteConfig}

/-- Routes are spelled by an array. -/
def SpellsRoutes (j : Json) (routes : List RouteConfig) : Prop :=
  ∃ items, j = .array items ∧ List.Forall₂ RouteConfig.Spells items routes

theorem list_eq_ok_iff : j.list (RouteConfig.decode .strict) = .ok routes ↔
    SpellsRoutes j routes := by
  simp only [Json.list_eq_ok_iff, RouteConfig.decode_eq_ok_iff, SpellsRoutes]

theorem putRoutes_eq_ok_iff {field : String} {before after : Option (List RouteConfig)} :
    putRoutes .strict field j before = .ok after ↔
      ∃ routes, SpellsRoutes j routes ∧ after = some routes := by
  rw [putRoutes, bind_pure_eq_ok_iff]
  simp only [list_eq_ok_iff]

theorem has_tracks :
    shape.Tracks (putRoutes .strict) none fun _ => Option.Rel SpellsRoutes where
  empty _ _ := .none
  own field _ j d d' puts := by
    obtain ⟨routes, spells, rfl⟩ := putRoutes_eq_ok_iff.mp puts
    exact .some spells
  other key known field listed differs j item d d' puts has := by
    rw [shape, List.mem_singleton] at known listed
    exact absurd (known.trans listed.symm) differs
  able field _ j d has draft := by
    match d, has with
    | some routes, .some spells =>
      exact ⟨some routes, putRoutes_eq_ok_iff.mpr ⟨routes, spells, rfl⟩⟩
  unique items d d' has others := by
    refine rel_unique (fun j routes routes' one other => ?_)
      (has "routes" List.mem_cons_self) (others "routes" List.mem_cons_self)
    exact Except.ok.inj ((list_eq_ok_iff.mpr one).symm.trans (list_eq_ok_iff.mpr other))

theorem decode_eq_ok_iff : decode .strict j = .ok config ↔ Spells j config := by
  have finish (missing : String → DecodeError) (routes : Option (List RouteConfig)) :
      (do return ⟨← required missing "routes" routes⟩) = Except.ok config ↔
        routes = some config.routes := by
    rw [bind_pure_eq_ok_iff]
    simp only [required_eq_ok_iff]
    constructor
    · rintro ⟨_, rfl, rfl⟩
      rfl
    · rintro rfl
      exact ⟨_, rfl, rfl⟩
  rw [decode, has_tracks.read_eq_ok_iff (List.nodup_singleton _) rfl
    fun missing missing' d ends => (finish missing' d).mpr ((finish missing d).mp ends)]
  simp only [finish]
  constructor
  · rintro ⟨items, routes, has, record, rfl⟩
    change List.Forall₂ _ ["routes"] items at has
    obtain _ | ⟨listed, ⟨⟩⟩ := has
    cases listed with
    | some spells =>
      obtain ⟨items, rfl, each⟩ := spells
      exact .intro each record
  · rintro ⟨each, record⟩
    exact ⟨_, some _, .cons (.some ⟨_, rfl, each⟩) .nil, record, rfl⟩

end RouterConfig

/-! ## Handlers of each type -/

namespace HandlerType

variable {j : Json} {name field text : String} {fallback : Option String} {type : HandlerType}
  {reply : Reply}

/-- What an only field has: the text it spells, or what stands for it if it is left out. -/
inductive HasText (fallback : Option String) : Option Json → Option String → Prop where
  | given (text : String) : HasText fallback (some (.string text)) (some text)
  | absent : HasText fallback none fallback

theorem hasText_tracks : RecordShape.Tracks ⟨name, [field], true⟩
    (fun _ j _ => do return some (← j.text .strict)) fallback fun _ => HasText fallback where
  empty _ _ := .absent
  own field _ j d d' puts := by
    obtain ⟨text, read, rfl⟩ := bind_pure_eq_ok_iff.mp puts
    obtain rfl := Json.text_eq_ok_iff.mp read
    exact .given text
  other key known field listed differs j item d d' puts has :=
    absurd ((List.mem_singleton.mp known).trans (List.mem_singleton.mp listed).symm) differs
  able field _ j d has draft := by
    cases has with
    | given text => exact ⟨some text, rfl⟩
  unique items d d' has others := by
    have one : HasText fallback (items field) d := has field List.mem_cons_self
    have other : HasText fallback (items field) d' := others field List.mem_cons_self
    generalize items field = item at one other
    cases one <;> cases other <;> rfl

/-- A record whose only field is a text is read from this text, or if it is left out from what
stands for it. -/
theorem decodeText_eq_ok_iff : decodeText name field fallback j = .ok text ↔
    RecordShape.Spells [(field, some (.string text))] j ∨
      RecordShape.Spells [(field, none)] j ∧ fallback = some text := by
  have finishes (missing missing') (d : Option String)
      (ends : required missing field d = .ok text) : required missing' field d = .ok text :=
    required_eq_ok_iff.mpr (required_eq_ok_iff.mp ends)
  rw [decodeText, hasText_tracks.read_eq_ok_iff (List.nodup_singleton _) rfl finishes]
  simp only [required_eq_ok_iff]
  constructor
  · rintro ⟨items, _, has, record, rfl⟩
    obtain _ | ⟨has, ⟨⟩⟩ := has
    generalize given : some text = held at has
    cases has with
    | given other =>
      obtain rfl := Option.some.inj given
      exact .inl record
    | absent => exact .inr ⟨record, rfl⟩
  · rintro (record | ⟨record, rfl⟩)
    · exact ⟨_, _, .cons (.given text) .nil, record, rfl⟩
    · exact ⟨_, _, .cons .absent .nil, record, rfl⟩

theorem decode_eq_ok_iff : type.decode j = .ok reply ↔ type.Spells j reply := by
  cases type with
  | echo =>
    simp only [decode, bind_pure_eq_ok_iff, decodeText_eq_ok_iff]
    constructor
    · rintro ⟨label, record | ⟨record, standsIn⟩, rfl⟩
      · exact .echo record
      · obtain rfl := Option.some.inj standsIn
        exact .unlabelled record
    · rintro (record | record)
      · exact ⟨_, .inl record, rfl⟩
      · exact ⟨_, .inr ⟨record, rfl⟩, rfl⟩
  | constant =>
    simp only [decode, bind_pure_eq_ok_iff, decodeText_eq_ok_iff]
    constructor
    · rintro ⟨text, record | ⟨-, ⟨⟩⟩, rfl⟩
      exact .constant record
    · intro spells
      cases spells with
      | constant record => exact ⟨_, .inl record, rfl⟩
  | fail =>
    simp only [decode, bind_pure_eq_ok_iff, decodeText_eq_ok_iff]
    constructor
    · rintro ⟨message, record | ⟨-, ⟨⟩⟩, rfl⟩
      exact .fail record
    · intro spells
      cases spells with
      | fail record => exact ⟨_, .inl record, rfl⟩
  | reject =>
    constructor
    · rintro ⟨⟩
      exact .reject j
    · rintro ⟨⟩
      rfl

end HandlerType

/-! ## Writing configurations -/

/-- How a record is written: as an object or an array that has null for what is left out, or as an
object without it. -/
inductive Form where
  | object
  | brief
  | array

namespace Form

variable {fields : List (String × Option Json)} {form : Form}

def item (form : Form) (given : Option Json) : Option Json :=
  match form with
  | object | array => some (given.getD .null)
  | brief => given

def record (form : Form) (fields : List (String × Option Json)) : Json :=
  match form with
  | object | brief =>
      .object (RecordShape.written (fields.map fun (field, given) => (field, form.item given)))
  | array => .array (fields.map fun (_, given) => given.getD .null)

theorem spells_record (form : Form) (fields : List (String × Option Json)) :
    RecordShape.Spells (fields.map fun (field, given) => (field, form.item given))
      (form.record fields) := by
  cases form with
  | object | brief => exact .object (.refl _)
  | array =>
    refine @RecordShape.Spells.array _ _ 0 ?_
    simp [item, Function.comp_def]

theorem item_some (j : Json) : form.item (some j) = some j := by
  cases form <;> rfl

theorem spellsOptional_item (text : Option String) :
    Json.SpellsOptional (form.item (text.map Json.string)) text := by
  cases text with
  | some text =>
    rw [Option.map_some, item_some]
    exact .text text
  | none =>
    cases form with
    | object | array => exact .null
    | brief => exact .absent

end Form

def HandlerConfig.document (form : Form) (config : HandlerConfig) : Json :=
  form.record [("type_url", some (.string config.typeUrl)), ("config", some config.config)]

def RouteConfig.document (route handler : Form) (config : RouteConfig) : Json :=
  route.record [("name", config.name.map Json.string), ("pattern", config.pattern.map Json.string),
    ("regex", config.regex.map Json.string), ("handler", some (config.handler.document handler))]

/-- A document of a router, with each kind of its records written in some form. -/
def RouterConfig.document (router route handler : Form) (config : RouterConfig) : Json :=
  router.record [("routes", some (.array (config.routes.map (RouteConfig.document route handler))))]

/-- What is kept of the configuration of a handler is sorted. -/
def HandlerConfig.Kept (config : HandlerConfig) : Prop :=
  config.config.sorted = config.config

def RouterConfig.Kept (config : RouterConfig) : Prop :=
  ∀ route ∈ config.routes, route.handler.Kept

theorem HandlerConfig.Spells.kept {j : Json} {config : HandlerConfig} (spells : Spells j config) :
    config.Kept := by
  obtain ⟨-⟩ := spells
  next typeUrl given =>
  cases given with
  | none => rfl
  | some j => exact j.sorted_sorted

theorem RouteConfig.Spells.kept {j : Json} {config : RouteConfig} (spells : Spells j config) :
    config.handler.Kept := by
  obtain ⟨-, -, -, handled, -⟩ := spells
  exact handled.kept

theorem RouterConfig.Spells.kept {j : Json} {config : RouterConfig} (spells : Spells j config) :
    config.Kept := by
  obtain ⟨each, -⟩ := spells
  intro route listed
  induction each with
  | nil => exact absurd listed List.not_mem_nil
  | cons first _ ih =>
    obtain rfl | listed := List.mem_cons.mp listed
    · exact first.kept
    · exact ih listed

theorem HandlerConfig.spells_document {config : HandlerConfig} (kept : config.Kept) (form : Form) :
    Spells (config.document form) config := by
  have record := form.spells_record [("type_url", some (.string config.typeUrl)),
    ("config", some config.config)]
  simp only [List.map_cons, List.map_nil, Form.item_some] at record
  have spells := Spells.intro record
  rw [Option.map_some, kept] at spells
  exact spells

theorem RouteConfig.spells_document {config : RouteConfig} (kept : config.handler.Kept)
    (route handler : Form) : Spells (config.document route handler) config := by
  have record := route.spells_record [("name", config.name.map Json.string),
    ("pattern", config.pattern.map Json.string), ("regex", config.regex.map Json.string),
    ("handler", some (config.handler.document handler))]
  simp only [List.map_cons, List.map_nil, Form.item_some] at record
  exact .intro (Form.spellsOptional_item _) (Form.spellsOptional_item _)
    (Form.spellsOptional_item _) (config.handler.spells_document kept handler) record

theorem RouterConfig.spells_document {config : RouterConfig} (kept : config.Kept)
    (router route handler : Form) : Spells (config.document router route handler) config := by
  have record := router.spells_record
    [("routes", some (.array (config.routes.map (RouteConfig.document route handler))))]
  simp only [List.map_cons, List.map_nil, Form.item_some] at record
  refine .intro ?_ record
  rw [List.forall₂_map_left_iff, List.forall₂_same]
  exact fun c listed => c.spells_document (kept c listed) route handler

/-- Routers, routes, handlers and the configurations of handlers are decoded from their spellings
and from nothing else.  What is decoded is kept, and whatever could be kept is decoded from each of
its documents. -/
theorem decoding_accepts_spellings :
    (∀ j config, RouterConfig.decode .strict j = .ok config ↔ RouterConfig.Spells j config) ∧
    (∀ j config, RouteConfig.decode .strict j = .ok config ↔ RouteConfig.Spells j config) ∧
    (∀ j config, HandlerConfig.decode .strict j = .ok config ↔ HandlerConfig.Spells j config) ∧
    (∀ type j reply, HandlerType.decode type j = .ok reply ↔ type.Spells j reply) ∧
    (∀ type typeUrl j reply, HandlerType.build type typeUrl j = .ok reply ↔
      type.Spells j reply ∧ reply ≠ .fail "") ∧
    (∀ j config, RouterConfig.decode .strict j = .ok config → config.Kept) ∧
    ∀ (config : RouterConfig), config.Kept → ∀ router route handler,
      RouterConfig.decode .strict (config.document router route handler) = .ok config := by
  refine ⟨fun _ _ => RouterConfig.decode_eq_ok_iff, fun _ _ => RouteConfig.decode_eq_ok_iff,
    fun _ _ => HandlerConfig.decode_eq_ok_iff, fun _ _ _ => HandlerType.decode_eq_ok_iff,
    fun type typeUrl j reply => ?_, fun j config decoded => ?_,
    fun config kept router route handler => ?_⟩
  · rw [HandlerType.build_eq_ok_iff, HandlerType.decode_eq_ok_iff]
  · exact (RouterConfig.decode_eq_ok_iff.mp decoded).kept
  · exact RouterConfig.decode_eq_ok_iff.mpr (config.spells_document kept router route handler)

/-- A named route with a pattern and a route that takes every path, whose handler has null for its
configuration. -/
theorem decoding_accepts_spellings_two_routes :
    let config : RouterConfig := ⟨[
      ⟨some "user", some "user/:id", none, ⟨"test.Echo", .object [("label", .string "u")]⟩⟩,
      ⟨none, none, none, ⟨"test.Reject", .null⟩⟩]⟩
    config.Kept ∧
      config.document .array .brief .array = .array [.array [
        .object [("name", .string "user"), ("pattern", .string "user/:id"),
          ("handler", .array [.string "test.Echo", .object [("label", .string "u")]])],
        .object [("handler", .array [.string "test.Reject", .null])]]] ∧
      RouterConfig.decode .strict (config.document .array .brief .array) = .ok config := by
  intro config
  have kept : config.Kept := List.forall_mem_cons.mpr ⟨rfl, List.forall_mem_singleton.mpr rfl⟩
  obtain ⟨-, -, -, -, -, -, decoded⟩ := decoding_accepts_spellings
  exact ⟨kept, rfl, decoded config kept .array .brief .array⟩

end PathRouting
