import TransponderShell.Daemon.Basic
import TransponderShell.Daemon.Oid

/-!
# Words that only the daemon knows

Some words of a line are locations, indices and object ids, which completion asks the daemon for
anew each time. `Question.ask` answers a question with a list of all slots, and with no words if
there is none; `Question.wordsIn` are the words for slots that are known.
-/

namespace TransponderShell

/-- Words that a daemon is asked for. -/
inductive Question where
  /-- The locations of all slots. -/
  | locations
  /-- The ids of all objects in slots with a module. -/
  | oids
  /-- The indices of the interfaces of a module. -/
  | indices (kind : InterfaceKind) (location : Text)
  deriving DecidableEq, Repr

namespace Question

/-- The words in the slots that a daemon lists. -/
def wordsIn (slots : List ModuleSummary) : Question → List Text
  | locations => slots.map ModuleSummary.location
  | oids => ((slots.filter fun slot => 0 < slot.oid).flatMap ModuleSummary.oids).map Oid.render
  | indices kind location =>
    match Daemon.createdModule location slots with
    | .ok slot => (slot.interfaces kind).map fun i => Numeral.decimal i.index
    | .error _ => []

/-- Ask a daemon. There are no words if it fails. -/
def ask {σ : Type} (d : Daemon σ) (q : Question) : StateM σ (List Text) := do
  match ← d.list.run with
  | .ok slots => return q.wordsIn slots
  | .error _ => return []

end Question

end TransponderShell
