import TransponderShell.Simulator.State
import TransponderShell.Daemon.Oid
import TransponderShell.Json.Printer

/-!
# The requests of the simulated transponder

`Simulator.daemon` answers the requests of a daemon.

* Values are read and written under the declarations of the object's type: unknown attributes,
  values outside the domain of the usage and, once the object is created, writes to read-only
  attributes are refused with a status code.
* `create` makes the module of a present slot together with all its interfaces, or one interface
  below a created module. The location, the index and the numbers of interfaces are set by the slot.
* `remove` lets go of an interface, and of a module without interfaces.
* `monitor` delivers the notifications that wait for the type and the attribute.
-/

namespace TransponderShell

/-- The status codes of the simulator. -/
inductive Status where
  | notSupported
  | invalidParameter
  | itemAlreadyExists
  | itemNotFound
  | invalidAttribute
  | invalidAttributeValue
  | unknownAttribute
  deriving DecidableEq, Repr

namespace Status

/-- The number of a status. -/
def code : Status → Nat
  | notSupported => 0x2
  | invalidParameter => 0x5
  | itemAlreadyExists => 0x6
  | itemNotFound => 0x7
  | invalidAttribute => 0x10000
  | invalidAttributeValue => 0x20000
  | unknownAttribute => 0x40000

/-- A refusal with this status. -/
def refusal (status : Status) (message : Text) : DaemonError := .status status.code message

end Status

namespace Simulator

/-- The attribute that names the slot of a module. -/
def locationName : Text := "location"

/-- The attribute that numbers an interface. -/
def indexName : Text := "index"

/-- The attribute that counts the network interfaces of a module. -/
def netifCountName : Text := "num-network-interfaces"

/-- The attribute that counts the host interfaces of a module. -/
def hostifCountName : Text := "num-host-interfaces"

/-- The refusal of an id without an object of the right type. -/
def noObject (oid : Nat) : DaemonError :=
  Status.itemNotFound.refusal ("object " ++ Oid.render oid ++ " not found")

/-! ## Objects and attributes -/

/-- The declaration of an attribute. -/
def declaration (type : ObjectType) (name : Text) : Request Simulator Declaration := do
  match (← get).catalogue.find? type name with
  | some d => return d
  | none => throw (Status.unknownAttribute.refusal ("unknown attribute " ++ name))

/-- The live object of a handle. -/
def liveObject (handle : ObjectHandle) : Request Simulator LiveObject := do
  match (← get).object? handle.oid with
  | some object => if object.type = handle.type then return object else throw (noObject handle.oid)
  | none => throw (noObject handle.oid)

/-- Check that an attribute is declared and admits a value. -/
def checkValue (type : ObjectType) (name value : Text) : Request Simulator Unit := do
  let d ← declaration type name
  if Usage.admits d.usage value then return ()
  else throw (Status.invalidAttributeValue.refusal ("invalid value " ++ value ++ " for " ++ name ++
    ". choose from " ++ Text.bracketed (Usage.values d.usage)))

/-- The text of a value, as JSON if the flag is set. -/
def encode (json : Bool) (value : Text) : Text :=
  if json then (Json.ofAttribute value).render else value

/-- Read an attribute. -/
def readAttribute (handle : ObjectHandle) (name : Text) (json : Bool) : Request Simulator Text := do
  let object ← liveObject handle
  let _ ← declaration handle.type name
  match object.values.get? name with
  | some value => return encode json value
  | none => throw (Status.notSupported.refusal (name ++ " has no value"))

/-- Write an attribute. -/
def writeAttribute (handle : ObjectHandle) (name value : Text) : Request Simulator Unit := do
  let _ ← liveObject handle
  let d ← declaration handle.type name
  if d.readOnly then throw (Status.invalidAttribute.refusal (name ++ " is read-only"))
  checkValue handle.type name value
  modify fun s => s.updateValues handle.oid (Values.set name value)

/-- Describe the values of an attribute. -/
def describe (handle : ObjectHandle) (name : Text) : Request Simulator Text := do
  let _ ← liveObject handle
  let d ← declaration handle.type name
  let access : Text := if d.readOnly then "read-only" else "read-write"
  match Usage.values d.usage with
  | [] => return access ++ " " ++ d.usage
  | domain => return access ++ " supported values: " ++ Text.bracketed domain

/-! ## Creating and removing -/

/-- Check that every pair names a declared attribute and has a value that it admits. -/
def checkValues (type : ObjectType) : List (Text × Text) → Request Simulator Unit
  | [] => return ()
  | (name, value) :: rest => do
    checkValue type name value
    checkValues type rest

/-- Make an object with the values of `pairs`, and the declared ones where `pairs` has none. -/
def spawn (type : ObjectType) (pairs : List (Text × Text)) : Request Simulator Nat := do
  checkValues type pairs
  let s ← get
  let declared := (s.catalogue.of type).map fun d => (d.name, Declaration.value d)
  let values := Values.setAll (Values.setAll [] declared) pairs
  modify fun s => { s with
    objects := s.objects ++ [(s.nextOid, { type := type, values := values })]
    nextOid := s.nextOid + 1 }
  return s.nextOid

/-- Make an interface below a created module. -/
def attachInterface (kind : InterfaceKind) (moduleOid index : Nat) (pairs : List (Text × Text)) :
    Request Simulator Nat := do
  match (← get).slots.find? fun slot => slot.oid = moduleOid ∧ moduleOid ≠ 0 with
  | none => throw (noObject moduleOid)
  | some slot =>
    let interface := kind.label ++ " " ++ Numeral.decimal index
    if slot.capacity kind ≤ index then
      throw (Status.invalidParameter.refusal (kind.label ++ " index " ++ Numeral.decimal index ++
        " out of range (max " ++ Numeral.decimal (slot.capacity kind) ++ ")"))
    if (slot.interfaces kind).any fun i => i.index = index then
      throw (Status.itemAlreadyExists.refusal (interface ++ " already exists"))
    let oid ← spawn (.interface kind) (pairs.filter fun (name, _) => name ≠ indexName)
    modify fun s => s.updateValues oid (Values.set indexName (Numeral.decimal index))
    modify fun s => s.updateSlotOf moduleOid (Slot.attach · kind ⟨index, oid⟩)
    return oid

/-- Make interfaces without values of their own for several indices. -/
def attachAll (kind : InterfaceKind) (moduleOid : Nat) : List Nat → Request Simulator Unit
  | [] => return ()
  | index :: rest => do
    let _ ← attachInterface kind moduleOid index []
    attachAll kind moduleOid rest

/-- Make the module of a slot with all its interfaces. -/
def createModule (slot : Slot) (pairs : List (Text × Text)) : Request Simulator Nat := do
  let oid ← spawn .module (pairs.filter fun (name, _) => name ≠ locationName)
  modify fun s => s.updateValues oid fun values => Values.setAll values [
    (locationName, slot.location),
    (netifCountName, Numeral.decimal slot.netifCapacity),
    (hostifCountName, Numeral.decimal slot.hostifCapacity)]
  modify fun s => s.updateSlotAt slot.location ({ · with oid := oid })
  attachAll .network oid (List.range slot.netifCapacity)
  attachAll .host oid (List.range slot.hostifCapacity)
  return oid

/-- Create an object. The first pair named `location` or `index` says where. -/
def create (type : ObjectType) (pairs : List (Text × Text)) (moduleOid : Nat) :
    Request Simulator Nat := do
  match type with
  | .module =>
    match pairs.lookup locationName with
    | none => throw (Status.invalidParameter.refusal "location attribute is required")
    | some location =>
      match (← get).slots.find? fun slot => slot.location = location with
      | none => throw (Status.itemNotFound.refusal ("no module at " ++ location))
      | some slot =>
        if !slot.present then
          throw (Status.notSupported.refusal ("module " ++ location ++ " not present"))
        if slot.oid ≠ 0 then
          throw (Status.itemAlreadyExists.refusal ("module " ++ location ++ " already created"))
        createModule slot pairs
  | .interface kind =>
    match (pairs.lookup indexName).bind Numeral.read32? with
    | none => throw (Status.invalidParameter.refusal "index attribute is required")
    | some index => attachInterface kind moduleOid index pairs

/-- Remove an object. -/
def remove (oid : Nat) : Request Simulator Unit := do
  match (← get).object? oid with
  | none => throw (noObject oid)
  | some object =>
    match object.type with
    | .module =>
      match (← get).slots.find? fun slot => slot.oid = oid with
      | none => pure ()
      | some slot =>
        if !slot.netifs.isEmpty || !slot.hostifs.isEmpty then
          throw (Status.invalidParameter.refusal
            ("module " ++ Oid.render oid ++ " still has interfaces"))
        modify fun s => s.updateSlotOf oid ({ · with oid := 0 })
    | .interface _ => modify fun s => { s with slots := s.slots.map (Slot.detach · oid) }
    modify fun s => { s with objects := s.objects.filter fun (id, _) => id ≠ oid }

/-! ## Notifications -/

/-- The notifications that an object sends to those who follow one of its attributes. -/
def notifications (handle : ObjectHandle) (name : Text) (json : Bool) (s : Simulator) :
    List Notification :=
  (s.queue.filter fun n => n.type = handle.type ∧ n.name = name).map fun n =>
    ⟨handle.oid, n.values.map fun v => { v with value := encode json v.value }⟩

/-- Check that an attribute of an object can be followed. -/
def checkFollowed (handle : ObjectHandle) (name : Text) : Request Simulator Unit := do
  let _ ← liveObject handle
  let d ← declaration handle.type name
  if d.isNotification then return () else throw (.notNotification name)

/-- Follow an attribute. -/
def follow (handle : ObjectHandle) (name : Text) (json : Bool) (s : Simulator) : Feed Simulator :=
  match checkFollowed handle name s with
  | (.error e, s) => .done (.error e) s
  | (.ok (), s) => Feed.ofList s (notifications handle name json s)

/-- Add a notification to those that wait. -/
def push (n : QueuedNotification) (s : Simulator) : Simulator := { s with queue := s.queue ++ [n] }

/-- The simulated transponder as a daemon. -/
def daemon : Daemon Simulator where
  kind := "mock"
  list := do return (← get).slots.map Slot.summary
  attributes := fun type => do return ((← get).catalogue.of type).map Declaration.toAttribute
  get := readAttribute
  set := writeAttribute
  capability := describe
  create := create
  remove := remove
  monitor := follow
  setLogLevel := fun level scope => modify fun s => { s with logLevel := some (level, scope) }

end Simulator

end TransponderShell
