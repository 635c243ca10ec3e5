import TransponderShell.Shell.Columns
import TransponderShell.Shell.Monitor

/-!
# What commands do

`Handler.run` carries out a command with its expanded arguments. Each command checks the shape of
its arguments before it does anything else. `Context.perform` resolves a line and carries it out.
-/

namespace TransponderShell

namespace Handler

variable {σ ω : Type}

/-! ## Commands on modules -/

/-- The lines for a slot. -/
def slotLines (slot : ModuleSummary) : List Text :=
  let head : Text :=
    if slot.oid = 0 then "module: " ++ slot.location ++ " not present"
    else "module: " ++ slot.location ++ " " ++ Oid.renderPadded slot.oid
  let interfaceLine (kind : InterfaceKind) (i : InterfaceSummary) : Text :=
    " " ++ kind.label ++ ": " ++ Numeral.decimal i.index ++ " " ++ Oid.renderPadded i.oid
  head :: (slot.hostifs.map (interfaceLine .host) ++ slot.netifs.map (interfaceLine .network))

/-- Show all slots. -/
def runList (t : Terminal σ ω) : List Text → Step σ ω Outcome
  | [] => do
    let slots ← Step.request t.daemon.list
    Step.lines t.writer (slots.flatMap slotLines)
    return .stay
  | _ => Step.usage "usage: list"

/-- Enter a module. -/
def runOpenModule (t : Terminal σ ω) : List Text → Step σ ω Outcome
  | [location] => return .enter (← Step.onDaemon (Context.openModule t.daemon location))
  | _ => Step.usage "usage: module <name>"

/-- Enter an interface. -/
def runOpenInterface (t : Terminal σ ω) (kind : InterfaceKind) (location : Text) :
    List Text → Step σ ω Outcome
  | [index] =>
    match Numeral.read32? index with
    | some n => return .enter (← Step.onDaemon (Context.openInterface t.daemon kind location n))
    | none => Step.usage ("invalid " ++ kind.label ++ " index " ++ index)
  | _ => Step.usage ("usage: " ++ kind.label ++ " <index>")

/-- Set the log level, for all of the daemon unless a scope is given. -/
def runLogLevel (t : Terminal σ ω) : List Text → Step σ ω Outcome
  | [level] => do
    let level ← Step.label (LogLevel.ofLabel level)
    Step.request (t.daemon.setLogLevel level .unspecified)
    return .stay
  | [level, scope] => do
    let level ← Step.label (LogLevel.ofLabel level)
    let scope ← Step.label (ApiScope.ofLabel scope)
    Step.request (t.daemon.setLogLevel level scope)
    return .stay
  | _ => Step.usage "usage: log-level <level> [api]"

/-- How objects are created. -/
def createUsage : Text :=
  "invalid input: create [module | netif <module-oid> | hostif <module-oid>] " ++
    "[<attr-name>:<attr-value> ]..."

/-- The name before the first colon and the value behind it. -/
def splitPair : Text → Option (Text × Text)
  | [] => none
  | ':' :: rest => some ([], rest)
  | c :: rest => (splitPair rest).map fun (name, value) => (c :: name, value)

/-- The values that a new object is to have. -/
def readPairs : List Text → Except Failure (List (Text × Text))
  | [] => .ok []
  | t :: rest =>
    match splitPair t with
    | none => .error (.input (.usage ("invalid attribute " ++ t ++ ": expected <name>:<value>")))
    | some pair =>
      match readPairs rest with
      | .ok pairs => .ok (pair :: pairs)
      | .error e => .error e

/-- Create an object with the values of `arguments` and show its id. -/
def createWith (t : Terminal σ ω) (type : ObjectType) (moduleOid : Nat) (arguments : List Text) :
    Step σ ω Outcome :=
  match readPairs arguments with
  | .error e => throw e
  | .ok pairs => do
    let oid ← Step.request (t.daemon.create type pairs moduleOid)
    Step.line t.writer ("oid: " ++ Oid.render oid)
    return .stay

/-- Create an object. An interface needs the id of its module. -/
def runCreate (t : Terminal σ ω) : List Text → Step σ ω Outcome
  | [] => Step.usage createUsage
  | label :: rest => do
    match ← Step.label (ObjectType.ofLabel label), rest with
    | .module, _ => createWith t .module 0 rest
    | .interface _, [] => Step.usage createUsage
    | .interface kind, oid :: rest =>
      match Oid.parse oid with
      | .ok oid => createWith t (.interface kind) oid rest
      | .error e => Step.usage ("invalid module oid: " ++ e.message)

/-- Remove an object. -/
def runRemove (t : Terminal σ ω) : List Text → Step σ ω Outcome
  | [oid] =>
    match Oid.parse oid with
    | .ok n => do
      Step.request (t.daemon.remove n)
      return .stay
    | .error e => Step.usage ("invalid oid " ++ oid ++ ": " ++ e.message)
  | _ => Step.usage "usage: remove <oid>"

/-! ## Commands on attributes -/

/-- Show the value of an attribute. -/
def runGet (t : Terminal σ ω) (object : ObjectHandle) : List Text → Step σ ω Outcome
  | [name] => do
    let value ← Step.request (t.daemon.get object name t.json)
    Step.line t.writer value
    return .stay
  | _ => Step.usage "usage: get <name>"

/-- Write an attribute. All words behind the name make up the value. -/
def runSet (t : Terminal σ ω) (object : ObjectHandle) : List Text → Step σ ω Outcome
  | name :: value => do
    Step.request (t.daemon.set object name (Text.unwords value))
    return .stay
  | [] => Step.usage "usage: set <name> <value>"

/-- Show the values that an attribute supports. -/
def runCapability (t : Terminal σ ω) (object : ObjectHandle) : List Text → Step σ ω Outcome
  | [name] => do
    let values ← Step.request (t.daemon.capability object name)
    Step.line t.writer values
    return .stay
  | _ => Step.usage "usage: capability <name>"

/-- Follow an attribute, `notify` unless another one is named, and end with a blank line. -/
def runMonitor (t : Terminal σ ω) (object : ObjectHandle) (attributes : List Attribute) :
    List Text → Step σ ω Outcome
  | [] => followWith "notify"
  | [name] => followWith name
  | _ => Step.usage "usage: monitor <name>"
where
  /-- Follow an attribute and end with a blank line. -/
  followWith (name : Text) : Step σ ω Outcome := do
    Monitor.follow t object attributes name
    Step.line t.writer []
    return .stay

/-- The row of an attribute in the table of attributes. -/
def attributeRow (a : Attribute) : List Text :=
  [a.name, if a.readOnly then "ro" else "r/w", a.usage,
    if a.isCustom then "custom" else "official"]

/-- Show the declared attributes in a table, or their names only. -/
def runListAttributes (t : Terminal σ ω) (attributes : List Attribute) :
    List Text → Step σ ω Outcome
  | [] => do
    Step.lines t.writer
      (Columns.render ["name", "type", "value", "range"] (attributes.map attributeRow))
    return .stay
  | [mode] =>
    if mode = "simple" then do
      Step.lines t.writer (attributes.map Attribute.name)
      return .stay
    else Step.usage "usage: list-attr [simple]"
  | _ => Step.usage "usage: list-attr [simple]"

/-! ## All commands -/

/-- Write one line made of the arguments, then stay or leave. -/
def runCustom (t : Terminal σ ω) (line : List Text → Text) (leaves : Bool) (arguments : List Text) :
    Step σ ω Outcome := do
  Step.line t.writer (line arguments)
  return if leaves then .leave else .stay

/-- Carry out a command with its arguments. -/
def run (t : Terminal σ ω) : Handler → List Text → Step σ ω Outcome
  | quit, _ => return .leave
  | openModule, arguments => runOpenModule t arguments
  | openInterface kind location, arguments => runOpenInterface t kind location arguments
  | list, arguments => runList t arguments
  | logLevel, arguments => runLogLevel t arguments
  | create, arguments => runCreate t arguments
  | remove, arguments => runRemove t arguments
  | get object, arguments => runGet t object arguments
  | set object, arguments => runSet t object arguments
  | capability object, arguments => runCapability t object arguments
  | monitor object attributes, arguments => runMonitor t object attributes arguments
  | listAttributes attributes, arguments => runListAttributes t attributes arguments
  | custom line leaves, arguments => runCustom t line leaves arguments

end Handler

/-- Resolve a line in a context and carry it out. -/
def Context.perform {σ ω : Type} (t : Terminal σ ω) (c : Context) (line : Text) :
    Step σ ω Outcome := do
  let resolved ← Step.onDaemon <| ExceptT.mk do
    match ← c.table.resolve (Question.ask t.daemon) line with
    | .ok resolved => return .ok resolved
    | .error e => return .error (Failure.input e)
  resolved.handler.run t resolved.arguments

end TransponderShell
