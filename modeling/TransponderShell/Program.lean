import TransponderShell.Invocation
import TransponderShell.Settings
import TransponderShell.Shell.Session
import TransponderShell.Simulator.FixtureFile

/-!
# The program

`Program.run` is a run of the program from its arguments to its exit, with the file system behind a
function and the standard input as a script that is read only if it is needed. The shell takes its
lines from the command line, from a script file or from the standard input.
-/

namespace TransponderShell

/-- How a run ends. -/
inductive Exit where
  | success
  /-- Something failed; the message says what. -/
  | failed (message : Text)
  /-- The arguments are not valid. -/
  | badArguments
  deriving DecidableEq, Repr

namespace Exit

/-- The exit status. -/
def code : Exit → Nat
  | success => 0
  | failed _ => 1
  | badArguments => 2

end Exit

/-- What a run has written, and how it ended. -/
structure Report where
  output : Text := []
  exit : Exit := .success
  deriving DecidableEq, Repr

namespace Program

variable {m : Type → Type} [Monad m]

/-- The name and the version of the program. -/
def versionLine : Text := "taish 0.1.0\n"

/-- How the program is used. -/
def helpText : Text := Text.joinWith ['\n'] [
  "Interactive shell for TAI daemons",
  "",
  "Usage: taish [OPTIONS]",
  "",
  "Options:",
  "  -c, --command-string <CMDS>  Run \x60;\x60-separated commands and exit",
  "      --script <FILE>          Execute commands from a script file instead of starting an " ++
    "interactive shell",
  "  -j, --json                   Render attribute values and notifications as JSON",
  "      --config <FILE>          Path to the taish configuration TOML",
  "      --fixture <FILE>         TOML fixture seeding the in-process daemon",
  "      --history <FILE>         Line editor history file",
  "  -v, --verbose                Enable debug logging",
  "  -h, --help                   Print help",
  "  -V, --version                Print version",
  ""]

/-- Where the shell takes its lines from. -/
inductive Source where
  | commands (text : Text)
  | script (lines : Script)
  /-- A script that cannot be read, although it could be opened. -/
  | unreadable
  /-- The standard input, in which nothing is a comment. -/
  | input (lines : Script)
  deriving DecidableEq, Repr

/-- Carry out the lines of a source. -/
def carryOut (t : Terminal Simulator Text) : Source → ShellM Simulator Text Unit
  | .commands text => Shell.runBatch t text
  | .script lines => Shell.runScript t lines
  | .unreadable => return ()
  | .input lines => Shell.runInput t lines

/-- What is shown for an error of the shell. -/
def errorText : Source → ShellError → Text
  | .input _, .notText => "readline error: " ++ ShellError.notText.message
  | _, e => e.message

/-- Carry out the lines of a source on a simulated transponder. -/
def session (json : Bool) (s : Simulator) (source : Source) : Report :=
  let t : Terminal Simulator Text := ⟨Simulator.daemon, .unlimited, json⟩
  match source, carryOut t source (Shell.start s []) with
  | .unreadable, _ => { exit := .failed "Is a directory (os error 21)" }
  | _, (.ok (), shell) => { output := shell.world.sink }
  | _, (.error e, shell) => { output := shell.world.sink, exit := .failed (errorText source e) }

/-- The settings of a run. -/
def settings (look : Text → m (Option FileNode)) (v : Variables) (o : Options) :
    m (Except Text Settings) := do
  let path ← Settings.pathOf look v o.config
  match ← Settings.load look path with
  | .error e => return .error e.message
  | .ok s =>
    let given : Settings := ⟨o.json, o.fixture, o.history⟩
    match ← Settings.override look v given s with
    | .error _ => return .error "invalid taish configuration"
    | .ok s => return .ok s

/-- The transponder of a run. -/
def transponder (look : Text → m (Option FileNode)) (s : Settings) : m (Except Text Simulator) := do
  match s.fixture with
  | none => return .ok Simulator.seed
  | some path =>
    match ← Simulator.ofFile look path with
    | .ok simulator => return .ok simulator
    | .error e => return .error e.message

/-- Where the lines of a run come from. -/
def source (look : Text → m (Option FileNode)) (o : Options) (input : m Script) :
    m (Except Text Source) := do
  match o.commands, o.script with
  | some text, _ => return .ok (.commands text)
  | none, none => return .ok (.input (← input))
  | none, some path =>
    match ← look path with
    | none => return .error ("failed to open script " ++ path)
    | some .directory => return .ok .unreadable
    | some (.file bytes) => return .ok (.script (Script.ofBytes bytes))

/-- A run with valid arguments. -/
def runWith (look : Text → m (Option FileNode)) (v : Variables) (o : Options)
    (input : m Script) : m Report := do
  match ← settings look v o with
  | .error message => return { exit := .failed message }
  | .ok s =>
    match ← transponder look s with
    | .error message => return { exit := .failed message }
    | .ok simulator =>
      match ← source look o input with
      | .error message => return { exit := .failed message }
      | .ok lines => return session s.json simulator lines

/-- A run of the program. -/
def run (look : Text → m (Option FileNode)) (v : Variables) (arguments : List Text)
    (input : m Script) : m Report :=
  match Invocation.ofArguments arguments with
  | .invalid => return { exit := .badArguments }
  | .version => return { output := versionLine }
  | .help => return { output := helpText }
  | .run o => runWith look v o input

end Program

end TransponderShell
