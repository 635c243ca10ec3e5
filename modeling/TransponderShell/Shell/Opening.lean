import TransponderShell.Shell.Context
import TransponderShell.Shell.Writer

/-!
# Opening contexts

`Context.openObject`, `Context.openModule` and `Context.openInterface` ask the daemon for what a
context is made from: the slot with its objects, and the attributes of the type. A `Failure` is
why that, or a command, did not succeed.
-/

namespace TransponderShell

/-- Why a context could not be opened or a command failed. -/
inductive Failure where
  /-- The line is not valid. -/
  | input (e : InvalidInput)
  /-- The daemon failed. -/
  | daemon (e : DaemonError)
  /-- The daemon did not tell the attributes of a type. -/
  | attributes (type : ObjectType) (e : DaemonError)
  /-- The output could not be written. -/
  | output (e : WriteError)
  /-- There is no object at the root. -/
  | noObject
  /-- The module has no such interface. -/
  | noInterface (kind : InterfaceKind) (index : Nat)
  deriving DecidableEq, Repr

namespace Failure

/-- The failure in words, from the outermost cause to the innermost. -/
def message : Failure → Text
  | input e => e.message
  | daemon e => e.message
  | attributes type e => "failed to list " ++ type.label ++ " attribute metadata: " ++ e.message
  | output e => e.message
  | noObject => "the root context has no attributes"
  | noInterface kind index => kind.label ++ " " ++ Numeral.decimal index ++ " not found"

end Failure

namespace Context

variable {σ : Type}

/-- Ask a daemon, with a reason of the shell's own if it fails. -/
def request {α : Type} (r : Request σ α) (because : DaemonError → Failure) :
    ExceptT Failure (StateM σ) α :=
  ExceptT.mk do
    match ← r.run with
    | .ok a => return .ok a
    | .error e => return .error (because e)

/-- Open the context of an object. -/
def openObject (d : Daemon σ) (scope : Scope) : ExceptT Failure (StateM σ) Context := do
  match scope.handle with
  | none => throw .noObject
  | some handle =>
    let attributes ← request (d.attributes handle.type) (.attributes handle.type)
    return object scope handle attributes

/-- Open the context of the module at a location. -/
def openModule (d : Daemon σ) (location : Text) : ExceptT Failure (StateM σ) Context := do
  let slot ← request (d.findModule location) .daemon
  let context ← openObject d (.module slot.location slot.oid)
  return context.addCommands (interfaceCommands location)

/-- Open the context of an interface of the module at a location. -/
def openInterface (d : Daemon σ) (kind : InterfaceKind) (location : Text) (index : Nat) :
    ExceptT Failure (StateM σ) Context := do
  let slot ← request (d.findModule location) .daemon
  match (slot.interfaces kind).find? fun i => i.index = index with
  | none => throw (.noInterface kind index)
  | some i => openObject d (.interface kind index i.oid)

end Context

end TransponderShell
