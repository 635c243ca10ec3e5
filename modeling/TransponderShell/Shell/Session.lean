import TransponderShell.Shell.Commands
import TransponderShell.Shell.Script

/-!
# The shell

A `Shell` is a stack of contexts above the root, which is never left, and the world they act on.

* `Shell.execute` carries out one line. A command that fails is reported and leaves the contexts as
  they are; only output that cannot be written is an error. A failure of writing that has sources of
  its own is not told apart from other failures, and is reported too (`Shell.report`).
* `Shell.runLines` carries out lines until one of them quits at the root or the output fails.
  `runBatch` takes them from a text with semicolons, `runScript` from the lines of a script, of
  which it skips blank ones and comments, and `runInput` from what the operator enters.
-/

namespace TransponderShell

/-- Where the shell stands and what it acts on. -/
structure Shell (σ ω : Type) where
  world : World σ ω
  root : Context := Context.root
  /-- The contexts above the root, the innermost first. -/
  above : List Context := []

/-- Whether the shell goes on after a line. -/
inductive Progress where
  | continue
  | quit
  deriving DecidableEq, Repr

/-- Why the shell cannot go on. -/
inductive ShellError where
  /-- A line of the shell's own could not be written. -/
  | write (e : WriteError)
  /-- The output of a command could not be written. -/
  | output (reason : Text)
  /-- A script is not text. -/
  | notText
  deriving DecidableEq, Repr

namespace ShellError

/-- What is shown for the error. -/
def message : ShellError → Text
  | write e => e
  | output reason => "failed to write shell output: " ++ reason
  | notText => "stream did not contain valid UTF-8"

end ShellError

/-- An action of the shell. -/
abbrev ShellM (σ ω α : Type) := ExceptT ShellError (StateM (Shell σ ω)) α

namespace Shell

variable {σ ω : Type}

/-- A shell at the root. -/
def start (daemon : σ) (sink : ω) : Shell σ ω := { world := { daemon := daemon, sink := sink } }

/-- The contexts from the root to the innermost. -/
def contexts (s : Shell σ ω) : List Context := s.root :: s.above.reverse

/-- The innermost context. -/
def context (s : Shell σ ω) : Context := s.above.headD s.root

/-- The prompt: the contexts above the root with slashes between them. -/
def prompt (s : Shell σ ω) : Text :=
  let labels := (s.contexts.map fun c => c.scope.label).filter fun label => !label.isEmpty
  Text.joinWith "/" labels ++ "> "

/-- Write a line. -/
def writeLine (t : Terminal σ ω) (text : Text) : ShellM σ ω Unit :=
  ExceptT.mk fun s =>
    match t.writer.line text s.world.sink with
    | (.ok (), sink) => (.ok (), { s with world := { s.world with sink := sink } })
    | (.error e, sink) => (.error (.write e), { s with world := { s.world with sink := sink } })

/-- What is written for a failure: a fault of the line as it is, a refusal of the daemon with its
status code, and everything else in words. -/
def reportText : Failure → Text
  | .input e => e.message
  | .daemon (.status code message) => statusText message code
  | .attributes _ (.status code message) => statusText message code
  | failure => "err: " ++ failure.message
where
  /-- A refusal with its code. -/
  statusText (message : Text) (code : Nat) : Text :=
    "err: " ++ message ++ " (code " ++ Numeral.hex code ++ ")"

/-- Report a failure, unless it is one of writing that comes from no other error. -/
def report (t : Terminal σ ω) : Failure → ShellM σ ω Unit
  | .output ⟨reason, []⟩ => throw (.output reason)
  | failure => writeLine t (reportText failure)

/-- Go where a command leads. -/
def move : Outcome → ShellM σ ω Progress
  | .stay => return .continue
  | .enter c => do
    modify fun s => { s with above := c :: s.above }
    return .continue
  | .leave => do
    match (← get).above with
    | [] => return .quit
    | _ :: rest =>
      modify fun s => { s with above := rest }
      return .continue

/-- Carry out a line in the innermost context. -/
def perform (t : Terminal σ ω) (line : Text) : ShellM σ ω (Except Failure Outcome) :=
  ExceptT.mk fun s =>
    let (result, world) := s.context.perform t line s.world
    (.ok result, { s with world := world })

/-- Carry out a line. -/
def execute (t : Terminal σ ω) (line : Text) : ShellM σ ω Progress := do
  if line.all isBlank then return .continue
  match ← perform t line with
  | .ok outcome => move outcome
  | .error failure => do
    report t failure
    return .continue

/-- Carry out lines until one of them quits. -/
def runLines (t : Terminal σ ω) : List Text → ShellM σ ω Unit
  | [] => return ()
  | line :: rest => do
    match ← execute t line with
    | .quit => return ()
    | .continue => runLines t rest

/-- Carry out the lines that stand between semicolons. -/
def runBatch (t : Terminal σ ω) (text : Text) : ShellM σ ω Unit := runLines t (pieces ';' text)

/-- Carry out the lines that are accepted, without blanks at their ends. A line that is not text
ends the run. -/
def runEach (t : Terminal σ ω) (accept : Text → Bool) : Script → ShellM σ ω Unit
  | [] => return ()
  | none :: _ => throw .notText
  | some line :: rest => do
    if accept line.trim then
      match ← execute t line.trim with
      | .quit => return ()
      | .continue => runEach t accept rest
    else runEach t accept rest

/-- Carry out a script. -/
def runScript (t : Terminal σ ω) (script : Script) : ShellM σ ω Unit :=
  runEach t Script.isCommand script

/-- Carry out what the operator enters. Only blank lines are left out. -/
def runInput (t : Terminal σ ω) (input : Script) : ShellM σ ω Unit :=
  runEach t (fun line => !line.isEmpty) input

end Shell

end TransponderShell
