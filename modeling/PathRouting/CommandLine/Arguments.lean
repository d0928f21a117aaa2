/-!
# Arguments of the command line

A command is named by the first argument.  Options and positional arguments may be mixed behind
it; two dashes alone end the options.  An argument that starts with a dash is an option, a single
dash excepted.
-/

namespace PathRouting.CommandLine

/-- How an operation is dispatched: extra arguments, and whether every step is shown. -/
structure DispatchOptions where
  args : List String
  trace : Bool
  deriving DecidableEq

inductive Command where
  /-- Lists the handler types. -/
  | info
  | check (config : String)
  | change (config path : String) (options : DispatchOptions)
  | set (config template : String) (data : List String) (options : DispatchOptions)
  | expand (template : String) (data : List String)
  deriving DecidableEq

/-- An option that a command may take. -/
inductive OptionName where
  | data
  | arg
  | trace
  deriving DecidableEq

/-- The arguments behind a command, sorted out. -/
structure Arguments where
  positional : List String
  data : List String
  args : List String
  trace : Bool

namespace Arguments

def empty : Arguments := ⟨[], [], [], false⟩

def positionalFirst (a : Arguments) (value : String) : Arguments :=
  { a with positional := value :: a.positional }

/-- Adds an option in front; `none` if it needs a value and has none, has one and needs none, or
may stand only once and stands again. -/
def withOption? (a : Arguments) : OptionName → Option String → Option Arguments
  | .data, some value => some { a with data := value :: a.data }
  | .arg, some value => some { a with args := value :: a.args }
  | .trace, none => if a.trace then none else some { a with trace := true }
  | _, _ => none

def looksLikeOption (arg : String) : Bool :=
  match arg.toList with
  | '-' :: _ :: _ => true
  | _ => false

def longOption? (arg : String) : Option (OptionName × Option String) :=
  match arg.toList with
  | '-' :: '-' :: chars =>
      let value := match chars.dropWhile (· != '=') with
        | _ :: value => some (String.ofList value)
        | [] => none
      let name := String.ofList (chars.takeWhile (· != '='))
      if name = "data" then some (.data, value)
      else if name = "arg" then some (.arg, value)
      else if name = "trace" then some (.trace, value)
      else none
  | _ => none

/-- Sorts out arguments; `none` if a command that takes the options `allowed` does not take
them. -/
def parse? (allowed : List OptionName) : List String → Option Arguments
  | [] => some empty
  | arg :: rest =>
      if arg = "--" then some { empty with positional := rest }
      else if looksLikeOption arg then
        match longOption? arg with
        | none => none
        | some (name, value) =>
            if name ∉ allowed then none
            else match name, value, rest with
              | .trace, value, rest => (parse? allowed rest).bind (·.withOption? .trace value)
              | name, some value, rest =>
                  (parse? allowed rest).bind (·.withOption? name (some value))
              | name, none, value :: rest =>
                  if looksLikeOption value then none
                  else (parse? allowed rest).bind (·.withOption? name (some value))
              | _, none, [] => none
      else (parse? allowed rest).map (·.positionalFirst arg)

end Arguments

namespace Command

/-- The command of some arguments; `none` if they are no use of the command line. -/
def parse? : List String → Option Command
  | [] => none
  | name :: rest =>
      if name = "info" then do
        match (← Arguments.parse? [] rest).positional with
        | [] => some .info
        | _ => none
      else if name = "check" then do
        match (← Arguments.parse? [] rest).positional with
        | [config] => some (.check config)
        | _ => none
      else if name = "change" then do
        let a ← Arguments.parse? [.arg, .trace] rest
        match a.positional with
        | [config, path] => some (.change config path ⟨a.args, a.trace⟩)
        | _ => none
      else if name = "set" then do
        let a ← Arguments.parse? [.data, .arg, .trace] rest
        match a.positional with
        | [config, template] => some (.set config template a.data ⟨a.args, a.trace⟩)
        | _ => none
      else if name = "expand" then do
        let a ← Arguments.parse? [.data] rest
        match a.positional with
        | [template] => some (.expand template a.data)
        | _ => none
      else none

def config? : Command → Option String
  | check config | change config _ _ | set config _ _ _ => some config
  | info | expand _ _ => none

end Command

end PathRouting.CommandLine
