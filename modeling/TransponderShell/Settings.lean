import TransponderShell.Files
import TransponderShell.Toml.Record

/-!
# Settings

The settings of the shell come from a file, from variables of the environment and from the command
line, the later ones over the earlier ones. `Settings.pathOf` finds the file, `Settings.load`
reads it, and `Settings.override` puts the rest over it and checks the paths.
-/

namespace TransponderShell

/-- What the shell can be told. -/
structure Settings where
  /-- Show values as JSON. -/
  json : Bool := false
  /-- The file that describes the simulated transponder. -/
  fixture : Option Text := none
  /-- The file that keeps the lines that were entered. -/
  history : Option Text := none
  deriving DecidableEq, Repr

/-- The variables of the environment that matter, where they are set. -/
structure Variables where
  config : Option Text := none
  fixture : Option Text := none
  history : Option Text := none
  deriving DecidableEq, Repr

namespace Variables

/-- The variable that names the settings file. -/
def configName : Text := "TAISH_CONFIG"

/-- The variable that names the fixture. -/
def fixtureName : Text := "TAISH_FIXTURE"

/-- The variable that names the history file. -/
def historyName : Text := "TAISH_HISTORY"

/-- The path in a variable: its value without blanks at the ends, unless nothing is left. -/
def path? (value : Option Text) : Option Text :=
  match value with
  | none => none
  | some value => if value.trim.isEmpty then none else some value.trim

end Variables

/-- Why there are no valid settings. -/
inductive SettingsError where
  /-- The text is not of the right form. -/
  | malformed
  /-- The file cannot be read. -/
  | unreadable (path : Text)
  /-- The file is not of the right form. -/
  | invalid (path : Text)
  | fixtureNotFile (path : Text)
  | historyIsDirectory (path : Text)
  deriving DecidableEq, Repr

namespace SettingsError

/-- What is shown for the error. -/
def message : SettingsError → Text
  | malformed => "invalid taish configuration TOML"
  | unreadable path => "failed to read taish config " ++ path
  | invalid path => "invalid taish config " ++ path
  | fixtureNotFile path => "fixture " ++ path ++ " is not a readable file"
  | historyIsDirectory path => "history path " ++ path ++ " is a directory"

end SettingsError

namespace Settings

variable {m : Type → Type} [Monad m]

/-- The settings file that is used if none is named. -/
def defaultPath : Text := "taish.toml"

/-- Read settings. -/
def ofText (t : Text) : Except SettingsError Settings :=
  let settings : Option Settings := do
    let r ← Toml.Record.ofMembers? ["json", "fixture", "history"] (← Toml.ofText? t)
    return {
      json := ← r.withDefault "json" Toml.asBool false
      fixture := ← r.optional "fixture" Toml.asText
      history := ← r.optional "history" Toml.asText }
  match settings with
  | some settings => .ok settings
  | none => .error .malformed

/-- The path of the settings file: the one that is given, or the one in the variable, or the default
one if it is there. -/
def pathOf (look : Text → m (Option FileNode)) (v : Variables) (given : Option Text) :
    m (Option Text) := do
  match given, Variables.path? v.config with
  | some path, _ => return some path
  | none, some path => return some path
  | none, none => return if FileNode.isFile (← look defaultPath) then some defaultPath else none

/-- Load the settings file. Without one the settings are the default ones. -/
def load (look : Text → m (Option FileNode)) :
    Option Text → m (Except SettingsError Settings)
  | none => return .ok {}
  | some path => do
    match FileNode.text? (← look path) with
    | none => return .error (.unreadable path)
    | some t =>
      match ofText t with
      | .ok settings => return .ok settings
      | .error _ => return .error (.invalid path)

/-- Check that the fixture is a file and the history is no directory. -/
def validate (look : Text → m (Option FileNode)) (s : Settings) :
    m (Except SettingsError Settings) := do
  let fixture ← match s.fixture with
    | some path => pure (if FileNode.isFile (← look path) then none else some path)
    | none => pure none
  match fixture with
  | some path => return .error (.fixtureNotFile path)
  | none =>
    match s.history with
    | none => return .ok s
    | some path =>
      if FileNode.isDirectory (← look path) then return .error (.historyIsDirectory path)
      else return .ok s

/-- Put the settings of the command line over the variables, and these over the file. -/
def override (look : Text → m (Option FileNode)) (v : Variables) (given s : Settings) :
    m (Except SettingsError Settings) :=
  validate look {
    json := s.json || given.json
    fixture := given.fixture <|> Variables.path? v.fixture <|> s.fixture
    history := given.history <|> Variables.path? v.history <|> s.history }

end Settings

end TransponderShell
