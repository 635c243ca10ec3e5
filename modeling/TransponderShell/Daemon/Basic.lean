import TransponderShell.Daemon.Feed

/-!
# Daemons

A `Daemon σ` is what the shell talks to: a machine with the states `σ` that answers requests. An
answer, and whether there is one, may depend on everything the daemon has been asked before, and a
refused request may change its state.

`Daemon.findModule` looks for a slot with a created module.
-/

namespace TransponderShell

/-- A request to a daemon with the states `σ`. -/
abbrev Request (σ α : Type) := ExceptT DaemonError (StateM σ) α

/-- A management daemon with the states `σ`. -/
structure Daemon (σ : Type) where
  /-- What sort of daemon this is. -/
  kind : Text := "unknown"
  /-- All slots. -/
  list : Request σ (List ModuleSummary)
  /-- The attributes that a type declares. -/
  attributes : ObjectType → Request σ (List Attribute)
  /-- The value of an attribute, as JSON if the flag is set. -/
  get : ObjectHandle → Text → Bool → Request σ Text
  set : ObjectHandle → Text → Text → Request σ Unit
  /-- The values that an attribute supports. -/
  capability : ObjectHandle → Text → Request σ Text
  /-- Create an object with initial values, an interface below the module of the given id. -/
  create : ObjectType → List (Text × Text) → Nat → Request σ Nat
  remove : Nat → Request σ Unit
  /-- Follow an attribute, with values as JSON if the flag is set. -/
  monitor : ObjectHandle → Text → Bool → σ → Feed σ
  setLogLevel : LogLevel → ApiScope → Request σ Unit

namespace Daemon

/-- The first slot at a location, provided that its module is present and has been created. -/
def createdModule (location : Text) (slots : List ModuleSummary) :
    Except DaemonError ModuleSummary :=
  match slots.find? fun slot => slot.location = location with
  | none => .error (.unknownModule location)
  | some slot =>
    if !slot.present then .error (.moduleNotPresent location)
    else if slot.oid = 0 then .error (.moduleNotCreated location)
    else .ok slot

/-- Look for the created module at a location. -/
def findModule {σ : Type} (d : Daemon σ) (location : Text) : Request σ ModuleSummary := do
  createdModule location (← d.list)

end Daemon

end TransponderShell
