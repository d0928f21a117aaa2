import PathRouting.CommandLine.Arguments
import PathRouting.Dispatch.Basic
import PathRouting.Handlers.Standard

/-!
# Running commands

What a command prints and how it ends.  A command prints line by line, and what it printed stays if
it fails later on; then one line of complaint follows.
-/

namespace PathRouting.CommandLine

/-! ## Errors and reports -/

/-- Why a command fails. -/
inductive CommandError where
  | unreadable (path reason : String)
  /-- A configuration that is no document, or is refused; `format` names what was expected. -/
  | badDocument (format reason : String)
  | badConfig (e : RouteError)
  | dispatchFailed (e : RouteError)
  | badPair (pair : String)
  | badTemplate (e : PatternError)

def CommandError.message : CommandError → String
  | unreadable path reason => "failed to read \"" ++ path ++ "\": " ++ reason
  | badDocument format reason => format ++ " parse error: " ++ reason
  | badConfig e => "config invalid: " ++ e.message
  | dispatchFailed e => "dispatch failed: " ++ e.message
  | badPair pair => "invalid data pair \"" ++ pair ++ "\", expected key=value"
  | badTemplate e => e.message

/-- What a command leaves behind. -/
structure Report where
  exitCode : Nat
  out : String
  err : String
  deriving DecidableEq

/-! ## Hosts and printing -/

/-- What commands run on. -/
structure Host where
  /-- The text of a file, or why it cannot be read. -/
  readFile : String → Except String String
  /-- The configuration in a JSON document, or why the document holds none. -/
  readJson : String → Except String RouterConfig
  readYaml : String → Except String RouterConfig
  engine : Regex.Engine

/-- What was printed so far, on the output and beside it. -/
structure Output where
  out : String
  err : String

/-- What a command does: it prints, and it may fail. -/
abbrev CommandM := ExceptT CommandError (StateM Output)

def printLine (line : String) : CommandM Unit :=
  modify fun o => { o with out := o.out ++ line ++ "\n" }

/-- Prints a line beside the output. -/
def showLine (line : String) : CommandM Unit :=
  modify fun o => { o with err := o.err ++ line ++ "\n" }

/-! ## Configuration files and data pairs -/

/-- The last part of a path, which is given and read from its end.  Slashes at the end of a path,
and dots between them, lead nowhere else. -/
def lastPart : List Char → List Char
  | '/' :: rest => lastPart rest
  | '.' :: '/' :: rest => lastPart rest
  | rest => rest.takeWhile (· != '/')

/-- Whether a file is named as a JSON document: its name ends in `.json`, in any case, with
something before. -/
def isJsonName (path : String) : Bool :=
  match lastPart path.toList.reverse with
  | n :: o :: s :: j :: '.' :: _ :: _ => [j, s, o, n].map Char.toLower == "json".toList
  | _ => false

def parseConfig (host : Host) (isJson : Bool) (text : String) : Except CommandError RouterConfig :=
  if isJson then (host.readJson text).mapError (.badDocument "JSON")
  else (host.readYaml text).mapError (.badDocument "YAML")

def loadRoutes (host : Host) (path : String) : Except CommandError (List (LoadedRoute Reply)) := do
  let text ← (host.readFile path).mapError (.unreadable path)
  let config ← parseConfig host (isJsonName path) text
  (Registry.standard.loadRouter host.engine config).mapError .badConfig

/-- Splits a pair at its first equals sign. -/
def splitPair? (pair : String) : Option (String × String) :=
  match pair.toList.dropWhile (· != '=') with
  | _ :: value => some (String.ofList (pair.toList.takeWhile (· != '=')), String.ofList value)
  | [] => none

/-- The bag of some pairs, added to a bag; of pairs with one key the last counts. -/
def addPairs (bag : Bag) : List String → Except CommandError Bag
  | [] => .ok bag
  | pair :: pairs =>
      match splitPair? pair with
      | some (key, value) => addPairs (bag.insert key (.coerce value)) pairs
      | none => .error (.badPair pair)

def parseData (pairs : List String) : Except CommandError Bag :=
  addPairs ∅ pairs

/-! ## Commands -/

def renderOutcome : Outcome String → String
  | .handled result => result
  | .noMatch => "(no match)"
  | .rejected => "(rejected)"

/-- Loads a router and dispatches an operation on it. -/
def dispatchOn (host : Host) (config : String) (op : Operation) (options : DispatchOptions) :
    CommandM Unit := do
  let loaded ← loadRoutes host config
  let router : Router Unit String := LoadedRoute.router Reply.handler loaded
  let session := LoadedRoute.session loaded ()
  let op := op.withArgs (options.args.map Value.coerce)
  if options.trace then
    let trace ← (router.dispatchTraced op session).1.mapError CommandError.dispatchFailed
    showLine trace.display
    printLine (renderOutcome trace.outcome)
  else
    let outcome ← (router.dispatch op session).1.mapError CommandError.dispatchFailed
    printLine (renderOutcome outcome)

def execute (host : Host) : Command → CommandM Unit
  | .info => do
      printLine "Registered handlers:"
      Registry.standard.typeUrls.forM fun url => printLine ("  " ++ url)
  | .check config => do
      let loaded ← loadRoutes host config
      printLine ("Config valid (" ++ toString loaded.length ++ " routes)")
  | .change config path options => dispatchOn host config (.change path) options
  | .set config template data options => do
      dispatchOn host config (.set template (← parseData data)) options
  | .expand template data => do
      let bag ← parseData data
      let path ← (synthesize template bag).mapError CommandError.badTemplate
      printLine path

/-- What a command leaves behind, whether it succeeds or fails. -/
def report (host : Host) (command : Command) : Report :=
  match (execute host command).run.run ⟨"", ""⟩ with
  | (.ok (), o) => ⟨0, o.out, o.err⟩
  | (.error e, o) => ⟨1, o.out, o.err ++ "error: " ++ e.message ++ "\n"⟩

def usage : String :=
  "Usage:\n" ++
  "  trail info\n" ++
  "  trail check CONFIG\n" ++
  "  trail change CONFIG PATH [--arg VALUE]... [--trace]\n" ++
  "  trail set CONFIG TEMPLATE [--data KEY=VALUE]... [--arg VALUE]... [--trace]\n" ++
  "  trail expand TEMPLATE [--data KEY=VALUE]...\n"

def usageExitCode : Nat := 2

def run (host : Host) (args : List String) : Report :=
  match Command.parse? args with
  | none => ⟨usageExitCode, "", usage⟩
  | some command => report host command

end PathRouting.CommandLine
