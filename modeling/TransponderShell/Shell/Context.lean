import TransponderShell.Command.Resolution
import TransponderShell.Shell.Question
import TransponderShell.Shell.Scope

/-!
# Contexts

A `Context` is a place in the object tree and the table of the commands that are valid there. The
commands are data, a `Handler` each.

* `Context.bare` has `quit` only, `Context.root` the commands on modules, and `Context.object` the
  commands on attributes, to which a module adds `Context.interfaceCommands`.
* `Context.addCommand` and `Context.deleteCommand` change the table. `quit` is never deleted.
-/

namespace TransponderShell

/-- What a command does. -/
inductive Handler where
  /-- Leave the context. -/
  | quit
  /-- Enter a module. -/
  | openModule
  /-- Enter an interface of the module at a location. -/
  | openInterface (kind : InterfaceKind) (location : Text)
  /-- Show all slots. -/
  | list
  | logLevel
  | create
  | remove
  /-- Show the value of an attribute. -/
  | get (object : ObjectHandle)
  | set (object : ObjectHandle)
  | capability (object : ObjectHandle)
  | monitor (object : ObjectHandle) (attributes : List Attribute)
  /-- Show the declared attributes. -/
  | listAttributes (attributes : List Attribute)
  /-- A command from outside the shell: write one line made of the arguments, then stay or leave. -/
  | custom (line : List Text → Text) (leaves : Bool)

/-- A place in the object tree and the commands there. -/
structure Context where
  scope : Scope
  table : CommandTable Question Handler

namespace Context

/-! ## Commands -/

/-- The command that leaves a context. -/
def quitCommand : Command Question Handler := ⟨"quit", .quit, none⟩

/-- The commands on modules. -/
def rootCommands : List (Command Question Handler) := [
  ⟨"module", .openModule, some (.asking .locations)⟩,
  ⟨"list", .list, none⟩,
  ⟨"log-level", .logLevel,
    some (.slots (.fixed (LogLevel.all.map LogLevel.label) (ApiScope.all.map ApiScope.label)))⟩,
  ⟨"create", .create, some (.nested (ObjectType.all.map fun type => (type.label, none)))⟩,
  ⟨"remove", .remove, some (.asking .oids)⟩]

/-- The commands on the attributes of an object. -/
def objectCommands (object : ObjectHandle) (attributes : List Attribute) :
    List (Command Question Handler) :=
  let descriptors := attributes.map Attribute.descriptor
  [⟨"get", .get object, some (.slots (.reading descriptors))⟩,
   ⟨"set", .set object, some (.slots (.writing descriptors))⟩,
   ⟨"capability", .capability object, some (.slots (.reading descriptors))⟩,
   ⟨"monitor", .monitor object attributes, some (.slots (.following descriptors))⟩,
   ⟨"list-attr", .listAttributes attributes, some (.words ["simple"])⟩]

/-- The commands that enter the interfaces of the module at a location. -/
def interfaceCommands (location : Text) : List (Command Question Handler) :=
  [InterfaceKind.network, .host].map fun kind =>
    ⟨kind.label, .openInterface kind location, some (.asking (.indices kind location))⟩

/-! ## Contexts -/

/-- The context that can only be left. -/
def bare (scope : Scope) : Context := ⟨scope, CommandTable.empty.insert quitCommand⟩

/-- Add a command, or replace the one of its name. -/
def addCommand (c : Context) (command : Command Question Handler) : Context :=
  { c with table := c.table.insert command }

/-- Add several commands. -/
def addCommands (c : Context) (commands : List (Command Question Handler)) : Context :=
  commands.foldl addCommand c

/-- Remove a command, and tell whether there was one. The command that leaves stays. -/
def deleteCommand (c : Context) (name : Text) : Bool × Context :=
  if name = quitCommand.name then (false, c)
  else ((c.table.get? name).isSome, { c with table := c.table.erase name })

/-- The context at the root. -/
def root : Context := (bare .root).addCommands rootCommands

/-- The context of an object with its attributes. -/
def object (scope : Scope) (handle : ObjectHandle) (attributes : List Attribute) : Context :=
  (bare scope).addCommands (objectCommands handle attributes)

end Context

end TransponderShell
