import PathRouting.Regex.Footprint.Basic

/-!
# Alternatives that are texts

Alternatives that are all texts become one tree, so that texts with a common start share states.
The tree keeps the order of the alternatives: a node is a row of layers, and the end of a text
closes the layer before it.
-/

namespace PathRouting.Regex

/-- The texts that go on with each byte, in the order the bytes came first. -/
abbrev TextLayer := List (Nat × List (List Nat))

namespace TextLayer

/-- Adds a text that goes on with `byte`. -/
def insert (byte : Nat) (rest : List Nat) : TextLayer → TextLayer
  | [] => [(byte, [rest])]
  | (b, texts) :: layer =>
      if b = byte then (b, texts ++ [rest]) :: layer else (b, texts) :: insert byte rest layer

/-- The closed layers of a node, last first, and the open one, by the texts that pass it. -/
def ofTexts (closed : List TextLayer) (current : TextLayer) :
    List (List Nat) → List TextLayer × TextLayer
  | [] => (closed, current)
  | [] :: texts =>
      if current.isEmpty && closed.all List.isEmpty && !closed.isEmpty then
        ofTexts closed current texts
      else ofTexts (current :: closed) [] texts
  | (byte :: rest) :: texts => ofTexts closed (current.insert byte rest) texts

end TextLayer

namespace Footprint

def addLayer (layer : TextLayer) (f : Footprint) : Footprint :=
  match layer with
  | [] => f
  | [_] => f.addStates 1
  | _ => f.addArcs layer.length

/-- Adds the node of some texts and the nodes below it; `depth` bounds the length of the texts.  A
node where nothing goes on needs no state. -/
def addNode : Nat → List (List Nat) → Footprint → Footprint
  | 0, _, f => f
  | depth + 1, texts, f =>
      let (closed, current) := TextLayer.ofTexts [] [] texts
      let layers := current :: closed
      let edges := (layers.filter (!·.isEmpty)).length + closed.length
      let f := layers.foldl (fun f layer =>
        layer.foldl (fun f branch =>
          if branch.2.all List.isEmpty then f else addNode depth branch.2 f) (f.addLayer layer)) f
      f.addUnion edges

/-- Adds alternatives that are texts, given by their bytes. -/
def addTexts (texts : List (List Nat)) (f : Footprint) : Footprint :=
  addNode (texts.foldl (fun n t => max n t.length) 0 + 1) texts (f.addStates 1)

end Footprint

end PathRouting.Regex
