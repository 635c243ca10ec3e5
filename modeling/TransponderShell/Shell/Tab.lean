import TransponderShell.Shell.Session

/-!
# Completion and help

What the line editor asks the innermost context: the candidates at the cursor, and the help for a
text. `Context.tab` puts the candidates in the form in which the editor takes them.
-/

namespace TransponderShell

namespace Shell

variable {σ ω : Type}

/-- Ask the innermost context, with the daemon to answer its questions. -/
def inContext {α : Type} (f : Context → StateM σ α) : StateM (Shell σ ω) α := fun s =>
  let (a, daemon) := f s.context s.world.daemon
  (a, { s with world := { s.world with daemon := daemon } })

end Shell

namespace Context

variable {σ : Type}

/-- The candidates for the line editor. -/
def completion (d : Daemon σ) (c : Context) (text : Text) : StateM σ (List Candidate) :=
  c.table.completion (Question.ask d) text .interactive

/-- The help for a text. -/
def help (d : Daemon σ) (c : Context) (text : Text) : StateM σ Text :=
  c.table.help (Question.ask d) text

end Context

/-- What the line editor offers: words to put between `start` and the cursor, in bytes. -/
structure TabCompletion where
  start : Nat
  words : List Text
  deriving DecidableEq, Repr

/-- The completion for the cursor behind `before`. The first candidate says where it starts. -/
def Context.tab {σ : Type} (d : Daemon σ) (c : Context) (before : Text) :
    StateM σ TabCompletion := do
  let candidates ← c.completion d before
  let replace := match candidates with
    | [] => 0
    | first :: _ => first.replace
  return ⟨before.byteSize - replace, Candidate.texts candidates⟩

end TransponderShell
