import TransponderShell.Files
import TransponderShell.Simulator.Fixture
import TransponderShell.Toml.Record

/-!
# Fixtures in TOML

A fixture is written as a TOML document with the arrays `module`, `attribute` and `notification`,
each of which may be left out. `Fixture.ofText?` reads it, `Simulator.ofText` sets up the
transponder, and `Simulator.ofFile` takes it from a file.
-/

namespace TransponderShell

namespace Fixture

/-- Read an object type. -/
def readType (v : Toml) : Option ObjectType :=
  v.asWord.bind fun label => (ObjectType.ofLabel label).toOption

/-- Read a module. -/
def readModule (v : Toml) : Option FixtureModule := do
  let r ← Toml.Record.of? ["location", "present", "created", "netifs", "hostifs"] v
  return {
    location := ← r.required "location" Toml.asText
    present := ← r.withDefault "present" Toml.asBool true
    created := ← r.withDefault "created" Toml.asBool true
    netifs := ← r.withDefault "netifs" Toml.asNat32 1
    hostifs := ← r.withDefault "hostifs" Toml.asNat32 2 }

/-- Read an attribute. -/
def readAttribute (v : Toml) : Option FixtureAttribute := do
  let r ← Toml.Record.of? ["object", "id", "name", "readonly", "usage", "default"] v
  return {
    type := ← r.required "object" readType
    id := ← r.required "id" Toml.asNat32
    name := ← r.required "name" Toml.asText
    readOnly := ← r.withDefault "readonly" Toml.asBool false
    usage := ← r.withDefault "usage" Toml.asText []
    initial := ← r.optional "default" Toml.asText }

/-- Read the value of an attribute in a notification. -/
def readValue (v : Toml) : Option FixtureValue := do
  let r ← Toml.Record.of? ["name", "id", "value"] v
  return {
    name := ← r.optional "name" Toml.asText
    id := ← r.optional "id" Toml.asNat32
    value := ← r.required "value" Toml.asText }

/-- Read a notification. -/
def readNotification (v : Toml) : Option FixtureNotification := do
  let r ← Toml.Record.of? ["object", "attribute", "values"] v
  return {
    type := ← r.required "object" readType
    name := ← r.withDefault "attribute" Toml.asText "notify"
    values := ← r.required "values" (Toml.asList readValue) }

/-- Read the members of a document. -/
def ofMembers? (members : Toml.Members) : Option Fixture := do
  let r ← Toml.Record.ofMembers? ["module", "attribute", "notification"] members
  return {
    modules := ← r.withDefault "module" (Toml.asList readModule) []
    attributes := ← r.withDefault "attribute" (Toml.asList readAttribute) []
    notifications := ← r.withDefault "notification" (Toml.asList readNotification) [] }

/-- Read a document. -/
def ofText? (t : Text) : Option Fixture := do ofMembers? (← Toml.ofText? t)

end Fixture

/-- The transponder that a document describes. -/
def Simulator.ofText (t : Text) : Except FixtureError Simulator :=
  match Fixture.ofText? t with
  | some f => ofFixture f
  | none => .error .malformed

/-- Why a fixture file describes no transponder. -/
inductive FixtureFileError where
  | unreadable (path : Text)
  | invalid (path : Text) (e : FixtureError)
  deriving DecidableEq, Repr

namespace FixtureFileError

/-- What is shown for the error. -/
def message : FixtureFileError → Text
  | unreadable path => "failed to read fixture " ++ path
  | invalid path _ => "invalid fixture " ++ path

end FixtureFileError

namespace Simulator

variable {m : Type → Type} [Monad m]

/-- Set up the transponder that a fixture file describes. -/
def ofFile (look : Text → m (Option FileNode)) (path : Text) :
    m (Except FixtureFileError Simulator) := do
  match FileNode.text? (← look path) with
  | none => return .error (.unreadable path)
  | some t =>
    match Simulator.ofText t with
    | .ok s => return .ok s
    | .error e => return .error (.invalid path e)

end Simulator

end TransponderShell
