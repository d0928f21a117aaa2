import Mathlib.Data.List.Sort
import Mathlib.Data.String.Basic
import PathRouting.Handlers.Standard
import PathRouting.Proofs.Fallible

/-!
# The checks of a route

Loading a route makes five checks, one after the other, and the first that refuses the route is the
one that is reported.  A route that passes them all is loaded with its name, the source it
describes, the handler it configures and the matcher of its source.
-/

namespace PathRouting

namespace RouteConfig

inductive Check where
  | oneSource
  | regex
  | typeUrl
  | handler
  | pattern

def Check.order : List Check := [.oneSource, .regex, .typeUrl, .handler, .pattern]

/-- Why a check refuses a route, whatever the other checks say of it. -/
inductive Check.Refuses (registry : Registry HandlerType) (engine : Regex.Engine)
    (config : RouteConfig) : Check → RouteError → Prop where
  | twoSources {pattern regex : String} (first : config.pattern = some pattern)
      (second : config.regex = some regex) :
      Refuses registry engine config .oneSource (.invalidConfig ("route " ++
        config.name.getD "<unnamed>" ++ " sets both `pattern` and `regex` — pick one"))
  | longRegex {regex : String} (given : config.regex = some regex)
      (long : PatternError.maxLength < regex.utf8ByteSize) :
      Refuses registry engine config .regex (.pattern (.tooLong regex.utf8ByteSize))
  | badRegex {regex reason : String} (given : config.regex = some regex)
      (short : regex.utf8ByteSize ≤ PatternError.maxLength)
      (uncompilable : engine regex = .error reason) :
      Refuses registry engine config .regex (.pattern (.invalidRegex regex reason))
  | unknownType {typeUrls : List String}
      (missing : registry.contains config.handler.typeUrl = false)
      (sorted : typeUrls.Pairwise (· < ·))
      (listed : ∀ typeUrl, typeUrl ∈ typeUrls ↔ registry.contains typeUrl = true) :
      Refuses registry engine config .typeUrl (.unknownTypeUrl config.handler.typeUrl typeUrls)
  | badHandler {type : HandlerType} {e : DecodeError}
      (registered : registry.types[config.handler.typeUrl]? = some type)
      (undecodable : type.decode config.handler.config = .error e) :
      Refuses registry engine config .handler
        (.invalidConfig (config.handler.typeUrl ++ ": " ++ e.message))
  | silentFailure {type : HandlerType}
      (registered : registry.types[config.handler.typeUrl]? = some type)
      (decoded : type.decode config.handler.config = .ok (.fail "")) :
      Refuses registry engine config .handler (.invalidConfig "Fail.message must not be empty")
  | badPattern {pattern : String} {e : PatternError} (given : config.pattern = some pattern)
      (malformed : Pattern.parse pattern = .error e) :
      Refuses registry engine config .pattern (.pattern e)

/-- The error of the first check that refuses the route. -/
def Refused (registry : Registry HandlerType) (engine : Regex.Engine) (config : RouteConfig)
    (e : RouteError) : Prop :=
  FirstRefusal (Check.Refuses registry engine config) Check.order e

/-- The source that a route is to have. -/
inductive Describes (engine : Regex.Engine) (config : RouteConfig) : Source → Prop where
  | pattern {pattern : String} (given : config.pattern = some pattern)
      (single : config.regex = none) : Describes engine config (.pattern pattern)
  | regex {regex : String} {compiled : Regex} (given : config.regex = some regex)
      (single : config.pattern = none) (compiles : Regex.compile engine regex = .ok compiled) :
      Describes engine config (.regex compiled)
  | any (noPattern : config.pattern = none) (noRegex : config.regex = none) :
      Describes engine config .any

end RouteConfig

/-- The handler that a configuration makes. -/
def HandlerConfig.Makes (registry : Registry HandlerType) (config : HandlerConfig)
    (reply : Reply) : Prop :=
  reply ≠ .fail "" ∧ ∃ type, registry.types[config.typeUrl]? = some type ∧
    type.decode config.config = .ok reply

/-- What a route is loaded as. -/
structure RouteConfig.Loads (registry : Registry HandlerType) (engine : Regex.Engine)
    (config : RouteConfig) (loaded : LoadedRoute Reply) : Prop where
  name : loaded.name = config.name
  source : config.Describes engine loaded.source
  handler : config.handler.Makes registry loaded.handler
  compiled : Matcher.compile loaded.source = .ok loaded.matcher

/-! ## What each check refuses -/

theorem Regex.compile_eq_error_iff {engine : Engine} {regex : String} {e : PatternError} :
    Regex.compile engine regex = .error e ↔
      (PatternError.maxLength < regex.utf8ByteSize ∧ e = .tooLong regex.utf8ByteSize) ∨
      regex.utf8ByteSize ≤ PatternError.maxLength ∧
        ∃ reason, engine regex = .error reason ∧ e = .invalidRegex regex reason := by
  unfold compile checkLength
  by_cases short : regex.utf8ByteSize ≤ PatternError.maxLength
  · have notLong : ¬ PatternError.maxLength < regex.utf8ByteSize := by omega
    cases compiled : engine regex with
    | ok search => simp [short, notLong, bind, Except.bind, pure, Except.pure]
    | error reason => simp [short, notLong, bind, Except.bind, throw, throwThe,
        MonadExceptOf.throw, eq_comm]
  · have long : PatternError.maxLength < regex.utf8ByteSize := by omega
    simp [short, long, bind, Except.bind, eq_comm]

namespace Registry

variable {τ : Type} {registry : Registry τ} {typeUrl : String}

theorem typeUrls_sorted : registry.typeUrls.Pairwise (· < ·) :=
  registry.types.ordered_keys.imp compare_lt_iff_lt.mp

theorem mem_typeUrls_iff : typeUrl ∈ registry.typeUrls ↔ registry.contains typeUrl = true :=
  Std.ExtTreeMap.mem_keys.trans Std.ExtTreeMap.contains_iff_mem.symm

theorem contains_eq_false_iff :
    registry.contains typeUrl = false ↔ registry.types[typeUrl]? = none := by
  rw [contains, Std.ExtTreeMap.contains_eq_isSome_getElem?, Option.isSome_eq_false_iff,
    Option.isNone_iff_eq_none]

end Registry

namespace HandlerType

variable {type : HandlerType} {typeUrl : String} {config : Json} {made reply : Reply}
  {e : RouteError}

theorem check_eq_ok_iff : check made = .ok reply ↔ made = reply ∧ reply ≠ .fail "" := by
  unfold check
  split
  · simp [eq_comm]
  · rename_i audible
    rw [Except.ok.injEq, iff_self_and]
    rintro rfl silent
    exact audible silent

theorem check_eq_error_iff : check made = .error e ↔
    made = .fail "" ∧ e = .invalidConfig "Fail.message must not be empty" := by
  unfold check
  split
  · simp [eq_comm]
  · rename_i audible
    exact iff_of_false (by simp) fun silent => audible silent.1

theorem build_eq_ok_iff :
    type.build typeUrl config = .ok reply ↔ type.decode config = .ok reply ∧ reply ≠ .fail "" := by
  simp only [build, HandlerTypes.build, HandlerTypes.decode, HandlerTypes.make]
  cases type.decode config with
  | error cause => simp [Except.mapError, bind, Except.bind]
  | ok made => simp [Except.mapError, bind, Except.bind, check_eq_ok_iff]

theorem build_eq_error_iff : type.build typeUrl config = .error e ↔
    (∃ cause, type.decode config = .error cause ∧
      e = .invalidConfig (typeUrl ++ ": " ++ cause.message)) ∨
    type.decode config = .ok (.fail "") ∧ e = .invalidConfig "Fail.message must not be empty" := by
  simp only [build, HandlerTypes.build, HandlerTypes.decode, HandlerTypes.make]
  cases type.decode config with
  | error cause => simp [Except.mapError, bind, Except.bind, eq_comm]
  | ok made => simp [Except.mapError, bind, Except.bind, check_eq_error_iff]

end HandlerType

namespace RouteConfig

variable {registry : Registry HandlerType} {engine : Regex.Engine} {config : RouteConfig}
  {source : Source} {e : RouteError}

theorem oneSource_refuses_iff : Check.oneSource.Refuses registry engine config e ↔ ∃ pattern regex,
    config.pattern = some pattern ∧ config.regex = some regex ∧
      e = .invalidConfig ("route " ++ config.name.getD "<unnamed>" ++
        " sets both `pattern` and `regex` — pick one") := by
  constructor
  · intro refuses
    cases refuses with
    | twoSources first second => exact ⟨_, _, first, second, rfl⟩
  · rintro ⟨pattern, regex, first, second, rfl⟩
    exact .twoSources first second

theorem regex_refuses_iff : Check.regex.Refuses registry engine config e ↔ ∃ regex cause,
    config.regex = some regex ∧ Regex.compile engine regex = .error cause ∧ e = .pattern cause := by
  constructor
  · intro refuses
    cases refuses with
    | longRegex given long =>
      exact ⟨_, _, given, Regex.compile_eq_error_iff.mpr (.inl ⟨long, rfl⟩), rfl⟩
    | badRegex given short uncompilable =>
      exact ⟨_, _, given, Regex.compile_eq_error_iff.mpr (.inr ⟨short, _, uncompilable, rfl⟩), rfl⟩
  · rintro ⟨regex, cause, given, fails, rfl⟩
    obtain ⟨long, rfl⟩ | ⟨short, reason, uncompilable, rfl⟩ := Regex.compile_eq_error_iff.mp fails
    · exact .longRegex given long
    · exact .badRegex given short uncompilable

theorem typeUrl_refuses_iff : Check.typeUrl.Refuses registry engine config e ↔
    registry.types[config.handler.typeUrl]? = none ∧
      e = .unknownTypeUrl config.handler.typeUrl registry.typeUrls := by
  constructor
  · intro refuses
    cases refuses with
    | @unknownType typeUrls missing sorted listed =>
      have same : typeUrls = registry.typeUrls :=
        sorted.eq_of_mem_iff Registry.typeUrls_sorted fun typeUrl =>
          (listed typeUrl).trans Registry.mem_typeUrls_iff.symm
      exact ⟨Registry.contains_eq_false_iff.mp missing, by rw [same]⟩
  · rintro ⟨missing, rfl⟩
    exact .unknownType (Registry.contains_eq_false_iff.mpr missing) Registry.typeUrls_sorted
      fun _ => Registry.mem_typeUrls_iff

theorem handler_refuses_iff : Check.handler.Refuses registry engine config e ↔
    ∃ type, registry.types[config.handler.typeUrl]? = some type ∧
      type.build config.handler.typeUrl config.handler.config = .error e := by
  constructor
  · intro refuses
    cases refuses with
    | badHandler registered undecodable =>
      exact ⟨_, registered, HandlerType.build_eq_error_iff.mpr (.inl ⟨_, undecodable, rfl⟩)⟩
    | silentFailure registered decoded =>
      exact ⟨_, registered, HandlerType.build_eq_error_iff.mpr (.inr ⟨decoded, rfl⟩)⟩
  · rintro ⟨type, registered, fails⟩
    obtain ⟨cause, undecodable, rfl⟩ | ⟨decoded, rfl⟩ := HandlerType.build_eq_error_iff.mp fails
    · exact .badHandler registered undecodable
    · exact .silentFailure registered decoded

theorem pattern_refuses_iff : Check.pattern.Refuses registry engine config e ↔ ∃ pattern cause,
    config.pattern = some pattern ∧ Pattern.parse pattern = .error cause ∧ e = .pattern cause := by
  constructor
  · intro refuses
    cases refuses with
    | badPattern given malformed => exact ⟨_, _, given, malformed, rfl⟩
  · rintro ⟨pattern, cause, given, malformed, rfl⟩
    exact .badPattern given malformed

/-! ## The steps of loading -/

theorem source_eq_ok_iff : config.source engine = .ok source ↔ config.Describes engine source := by
  constructor
  · intro described
    unfold RouteConfig.source at described
    cases hasPattern : config.pattern with
    | some pattern =>
      cases hasRegex : config.regex with
      | some regex => simp [hasPattern, hasRegex] at described
      | none =>
        simp only [hasPattern, hasRegex, Except.ok.injEq] at described
        exact described ▸ .pattern hasPattern hasRegex
    | none =>
      cases hasRegex : config.regex with
      | none =>
        simp only [hasPattern, hasRegex, Except.ok.injEq] at described
        exact described ▸ .any hasPattern hasRegex
      | some regex =>
        simp only [hasPattern, hasRegex, mapError_eq_ok_iff] at described
        obtain ⟨compiled, compiles, rfl⟩ := bind_pure_eq_ok_iff.mp described
        exact .regex hasRegex hasPattern compiles
  · rintro (⟨given, single⟩ | ⟨given, single, compiles⟩ | ⟨noPattern, noRegex⟩)
    · simp only [RouteConfig.source, given, single]
    · simp only [RouteConfig.source, given, single, mapError_eq_ok_iff]
      exact bind_pure_eq_ok_iff.mpr ⟨_, compiles, rfl⟩
    · simp only [RouteConfig.source, noPattern, noRegex]

theorem source_eq_error_iff : config.source engine = .error e ↔
    FirstRefusal (Check.Refuses registry engine config) [.oneSource, .regex] e := by
  rw [firstRefusal_cons_iff, firstRefusal_singleton_iff]
  -- A bad regular expression beside a pattern is not noticed: there are two sources then.
  simp only [oneSource_refuses_iff, regex_refuses_iff, RouteConfig.source]
  cases hasPattern : config.pattern with
  | some pattern => cases hasRegex : config.regex <;> simp [eq_comm]
  | none =>
    cases hasRegex : config.regex with
    | none => simp
    | some regex =>
      simp only [mapError_eq_error_iff, Source.ofRegex, bind_pure_eq_error_iff]
      simp

theorem resolve_eq_ok_iff {reply : Reply} :
    registry.resolve config.handler = .ok reply ↔ config.handler.Makes registry reply := by
  unfold Registry.resolve HandlerConfig.Makes
  cases registry.types[config.handler.typeUrl]? with
  | none => simp
  | some type => simp [HandlerType.build_eq_ok_iff, and_comm]

theorem resolve_eq_error_iff : registry.resolve config.handler = .error e ↔
    FirstRefusal (Check.Refuses registry engine config) [.typeUrl, .handler] e := by
  rw [firstRefusal_cons_iff, firstRefusal_singleton_iff]
  simp only [typeUrl_refuses_iff, handler_refuses_iff, Registry.resolve]
  cases registry.types[config.handler.typeUrl]? with
  | none => simp [eq_comm]
  | some type => simp

theorem compile_eq_error_iff (described : config.Describes engine source) :
    (Matcher.compile source).mapError .pattern = .error e ↔
      FirstRefusal (Check.Refuses registry engine config) [.pattern] e := by
  rw [firstRefusal_singleton_iff, pattern_refuses_iff, mapError_eq_error_iff]
  cases described with
  | pattern given =>
    simp only [Matcher.compile, Matcher.ofPattern, bind_pure_eq_error_iff, given]
    simp
  | regex _ single => simp [Matcher.compile, single]
  | any noPattern => simp [Matcher.compile, noPattern]

/-! ## The whole route -/

theorem loadRoute_eq_ok_iff {loaded : LoadedRoute Reply} :
    registry.loadRoute engine config = .ok loaded ↔ config.Loads registry engine loaded := by
  simp only [Registry.loadRoute, bind_eq_ok_iff, source_eq_ok_iff, resolve_eq_ok_iff,
    mapError_eq_ok_iff]
  constructor
  · rintro ⟨source, described, reply, makes, matcher, compiled, ⟨⟩⟩
    exact ⟨rfl, described, makes, compiled⟩
  · rintro ⟨name, described, makes, compiled⟩
    exact ⟨_, described, _, makes, _, compiled, by rw [← name]; rfl⟩

theorem loadRoute_eq_error_iff :
    registry.loadRoute engine config = .error e ↔ config.Refused registry engine e := by
  refine bind_eq_error_iff_firstRefusal (fun e => source_eq_error_iff) fun source described => ?_
  refine bind_eq_error_iff_firstRefusal (fun e => resolve_eq_error_iff) fun reply _ => ?_
  rw [bind_pure_eq_error_iff]
  exact compile_eq_error_iff (source_eq_ok_iff.mp described)

end RouteConfig

end PathRouting
