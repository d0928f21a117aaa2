import Std.Data.HashSet
import PathRouting.Regex.Program

/-!
# Searching with a regular expression

The search looks for a match from every place of the text, the first place first, and at each
place tries the choices of the program in their order.  A state that was reached once is not
entered again, for it can only fail again.
-/

namespace PathRouting.Regex

abbrev Slots := Array (Option Nat)

/-- A state to try: an instruction, a position in the text, and what was captured so far. -/
structure Job where
  pc : Nat
  pos : Nat
  slots : Slots

/-- Whether a condition holds between the characters around a position. -/
def Look.holds (l : Look) (text : Array Char) (pos : Nat) : Bool :=
  let before := if pos = 0 then none else text[pos - 1]?
  let after := text[pos]?
  let wordBefore := before.any CharSet.word.holds
  let wordAfter := after.any CharSet.word.holds
  match l with
  | .textStart => before.isNone
  | .textEnd => after.isNone
  | .lineStart => before.isNone || before == some '\n'
  | .lineEnd => after.isNone || after == some '\n'
  | .wordBoundary => wordBefore != wordAfter
  | .noWordBoundary => wordBefore == wordAfter
  | .wordStart => !wordBefore && wordAfter
  | .wordEnd => wordBefore && !wordAfter

/-- The states that follow a state, the preferred one first. -/
def Inst.next (text : Array Char) (job : Job) : Inst → List Job
  | .char d =>
      if text[job.pos]? = some d then [{ job with pc := job.pc + 1, pos := job.pos + 1 }] else []
  | .one s =>
      match text[job.pos]? with
      | some c => if s.holds c then [{ job with pc := job.pc + 1, pos := job.pos + 1 }] else []
      | none => []
  | .look l => if l.holds text job.pos then [{ job with pc := job.pc + 1 }] else []
  | .save slot =>
      [{ job with pc := job.pc + 1, slots := job.slots.setIfInBounds slot (some job.pos) }]
  | .split first second => [{ job with pc := first }, { job with pc := second }]
  | .jump target => [{ job with pc := target }]
  | .accept => []

/-- Tries states until one accepts; `visited` holds the states that were entered. -/
def tryJobs (program : Array Inst) (text : Array Char) :
    Nat → List Job → Std.HashSet Nat → Option Slots × Std.HashSet Nat
  | 0, _, visited | _, [], visited => (none, visited)
  | fuel + 1, job :: jobs, visited =>
      let state := job.pc * (text.size + 1) + job.pos
      if visited.contains state then tryJobs program text fuel jobs visited
      else match program[job.pc]? with
        | none => tryJobs program text fuel jobs (visited.insert state)
        | some .accept => (some job.slots, visited)
        | some inst => tryJobs program text fuel (inst.next text job ++ jobs) (visited.insert state)

/-- Tries the places of the text from `start` on, `places` of them. -/
def tryPlaces (program : Array Inst) (text : Array Char) (slots : Slots) (start : Nat) :
    Nat → Std.HashSet Nat → Option Slots
  | 0, _ => none
  | places + 1, visited =>
      let fuel := 2 * program.size * (text.size + 1) + 2
      match tryJobs program text fuel [⟨0, start, slots⟩] visited with
      | (some slots, _) => some slots
      | (none, visited) => tryPlaces program text slots (start + 1) places visited

def slotText (text : Array Char) (slots : Slots) (index : Nat) : Option String := do
  let start ← slots[2 * index]?.join
  let stop ← slots[2 * index + 1]?.join
  return String.ofList (text.extract start stop).toList

end PathRouting.Regex
