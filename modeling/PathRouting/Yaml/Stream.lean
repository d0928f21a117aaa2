import PathRouting.Json.Reading
import PathRouting.Yaml.Token

/-!
# Streams of documents

A YAML stream is a sequence of documents set off by lines of three dashes.  A document without
tokens is null.
-/

namespace PathRouting.Yaml

open PathRouting.Json (ReadError Token)

/-- The tokens of each document.  What stands before the first mark is a document unless it has
no tokens; a stream without marks is one document. -/
def documents (chars : List Char) : Except ReadError (List (List Token)) :=
  match cutAtMarks true [] chars with
  | [] => .ok []
  | first :: others => do
      let before ← tokens .nothing first
      let behind ← others.mapM fun text => tokens .token (text.drop 3)
      return if before.isEmpty && !behind.isEmpty then behind else before :: behind

def ofTokens : List Token → Except ReadError Json
  | [] => .ok .null
  | tokens => Json.ofTokens .yaml tokens

def parseStream (stream : String) : Except ReadError (List Json) := do
  let chars := unifyBreaks stream.toList
  if !chars.all mayOccur then throw .badCharacter
  if hasEndMark true chars then throw .misplacedToken
  (← documents chars).mapM ofTokens

/-- Reads a stream that must hold one document. -/
def parseSingle (stream : String) : Except ReadError Json := do
  match ← parseStream stream with
  | [j] => return j
  | _ => throw .notOneDocument

end PathRouting.Yaml
