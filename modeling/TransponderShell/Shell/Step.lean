import TransponderShell.Shell.Opening

/-!
# Steps of commands

Commands act on a `World`: the daemon, the writer and the interrupt flag. A `Step` may fail, and
what has happened up to a failure stays as it is. `Step.request` asks the daemon, `Step.line`
writes a line, `Step.usage` and `Step.label` fail for the command's own reasons.
-/

namespace TransponderShell

/-- What commands act on. -/
structure World (σ ω : Type) where
  daemon : σ
  sink : ω
  /-- Whether the operator has asked for an interruption. -/
  interrupted : Bool := false

/-- What the shell is connected to. -/
structure Terminal (σ ω : Type) where
  daemon : Daemon σ
  writer : Writer ω
  /-- Whether values are shown as JSON. -/
  json : Bool := false

/-- What the shell does after a command. -/
inductive Outcome where
  | stay
  | enter (context : Context)
  | leave

/-- A step of a command. -/
abbrev Step (σ ω α : Type) := ExceptT Failure (StateM (World σ ω)) α

namespace Step

variable {σ ω α : Type}

/-- Act on the daemon alone. -/
def onDaemon (x : ExceptT Failure (StateM σ) α) : Step σ ω α :=
  ExceptT.mk fun world =>
    let (result, daemon) := x.run world.daemon
    (result, { world with daemon := daemon })

/-- Ask the daemon. -/
def request (r : Request σ α) : Step σ ω α := onDaemon (Context.request r .daemon)

/-- Write a line. -/
def line (w : Writer ω) (t : Text) : Step σ ω Unit :=
  ExceptT.mk fun world =>
    match w.line t world.sink with
    | (.ok (), sink) => (.ok (), { world with sink := sink })
    | (.error e, sink) => (.error (.output e), { world with sink := sink })

/-- Write lines one after another. -/
def lines (w : Writer ω) : List Text → Step σ ω Unit
  | [] => return ()
  | t :: rest => do
    line w t
    lines w rest

/-- The arguments have the wrong shape. -/
def usage (message : Text) : Step σ ω α := throw (.input (.usage message))

/-- Read a label. -/
def label (x : Except DaemonError α) : Step σ ω α :=
  match x with
  | .ok a => return a
  | .error e => throw (.daemon e)

end Step

end TransponderShell
