import PathRouting.CommandLine.Run
import PathRouting.Regex.Engine
import PathRouting.Yaml.Stream

/-!
# The host of the program

The commands run on readers and an engine of this library.
-/

namespace PathRouting.CommandLine

namespace Host

/-- Decodes a document that was read. -/
def decodeConfig (dialect : Json.Dialect) (document : Except Json.ReadError Json) :
    Except String RouterConfig := do
  (RouterConfig.decode dialect (← document.mapError (·.message))).mapError (·.message)

def ofFiles (readFile : String → Except String String) : Host where
  readFile := readFile
  readJson text := decodeConfig .strict (Json.parse text)
  readYaml text := decodeConfig .yaml (Yaml.parseSingle text)
  engine := Regex.backtracking

end Host

end PathRouting.CommandLine
