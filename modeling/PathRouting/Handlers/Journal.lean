import PathRouting.Handlers.Reply

/-!
# Handlers that leave notes

A journal lists all calls and keeps a list of notes for each recording handler.  A recording
handler notes the index and the path of a call before it does anything else, so calls that are
rejected or fail are noted too.
-/

namespace PathRouting

/-- The notes of the handlers of a router. -/
structure Journal where
  /-- All calls, in the order they were made. -/
  calls : Array Call
  notes : Array (Array String)

namespace Journal

/-- Nothing noted, and no recording handler. -/
def empty : Journal := ⟨#[], #[]⟩

def log (journal : Journal) (call : Call) : Journal :=
  { journal with calls := journal.calls.push call }

def note (journal : Journal) (recording : Nat) (text : String) : Journal :=
  { journal with notes := journal.notes.modify recording (·.push text) }

@[simp] theorem calls_note (journal : Journal) (recording : Nat) (text : String) :
    (journal.note recording text).calls = journal.calls := rfl

@[simp] theorem notes_log (journal : Journal) (call : Call) :
    (journal.log call).notes = journal.notes := rfl

@[simp] theorem size_notes_note (journal : Journal) (recording : Nat) (text : String) :
    (journal.note recording text).notes.size = journal.notes.size := by
  simp [note]

def newRecording (journal : Journal) : Nat × Journal :=
  (journal.notes.size, { journal with notes := journal.notes.push #[] })

end Journal

def Call.note (call : Call) : String :=
  toString call.index ++ ":" ++ call.path

namespace Handler

variable {ρ : Type}

/-- Lists every call before the handler answers it. -/
def logged (handler : Handler Journal ρ) : Handler Journal ρ :=
  fun relay call session =>
    handler relay call { session with env := session.env.log call }

/-- Notes every call before the handler answers it. -/
def recorded (recording : Nat) (handler : Handler Journal ρ) : Handler Journal ρ :=
  fun relay call session =>
    handler relay call { session with env := session.env.note recording call.note }

end Handler

end PathRouting
