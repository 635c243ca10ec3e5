import TransponderShell.Simulator.Operations

/-!
# Setting up the simulated transponder

A `Fixture` describes a transponder: its modules, the attributes of its object types and the
notifications that wait. `Simulator.ofFixture` builds it, in the order of the locations, unless the
description contradicts itself.

`Simulator.seed` is the transponder without a description: a module in slot 1, hardware in slot 2,
and an empty slot 3. A fixture without attributes takes the attributes of the seed, and one without
notifications its notifications.
-/

namespace TransponderShell

/-- A slot of a fixture. -/
structure FixtureModule where
  location : Text
  present : Bool := true
  /-- Whether the module of a present slot is created. -/
  created : Bool := true
  netifs : Nat := 1
  hostifs : Nat := 2
  deriving DecidableEq, Repr

/-- An attribute of a fixture. -/
structure FixtureAttribute extends Declaration where
  type : ObjectType
  deriving DecidableEq, Repr

/-- The value of an attribute in a notification of a fixture, under its id or its name. -/
structure FixtureValue where
  name : Option Text := none
  id : Option Nat := none
  value : Text
  deriving DecidableEq, Repr

/-- A notification of a fixture. -/
structure FixtureNotification where
  type : ObjectType
  name : Text := "notify"
  values : List FixtureValue
  deriving DecidableEq, Repr

/-- The description of a transponder. -/
structure Fixture where
  modules : List FixtureModule := []
  attributes : List FixtureAttribute := []
  notifications : List FixtureNotification := []
  deriving DecidableEq, Repr

/-- Why a fixture describes no transponder. -/
inductive FixtureError where
  /-- The text is not of the right form. -/
  | malformed
  | duplicateAttribute (type : ObjectType) (name : Text)
  | unknownAttribute (type : ObjectType) (name : Text)
  /-- A value of a notification has neither a name nor an id. -/
  | namelessValue
  | noModules
  | duplicateLocation (location : Text)
  /-- A module could not be created. -/
  | moduleFailed (location : Text) (e : DaemonError)
  deriving DecidableEq, Repr

namespace FixtureError

/-- What is shown for the error. -/
def message : FixtureError → Text
  | malformed => "invalid fixture TOML"
  | duplicateAttribute type name => "duplicate " ++ type.label ++ " attribute " ++ name
  | unknownAttribute type name => "unknown " ++ type.label ++ " attribute " ++ name
  | namelessValue => "notification value needs a name or an id"
  | noModules => "fixture declares no modules"
  | duplicateLocation location => "duplicate module location " ++ location
  | moduleFailed location e => "module " ++ location ++ ": " ++ e.message

end FixtureError

namespace Simulator

/-! ## The seed -/

/-- The attributes of a module. -/
def seedModule : List Declaration := [
  { id := 1, name := "location", readOnly := true, usage := "<chararray>" },
  { id := 2, name := "vendor-name", readOnly := true, usage := "<chararray>",
    initial := some "ACME" },
  { id := 3, name := "oper-status", readOnly := true, usage := "[unknown|initialize|ready]",
    initial := some "ready" },
  { id := 4, name := "admin-status", readOnly := false, usage := "[unknown|down|up]",
    initial := some "up" },
  { id := 5, name := "temp", readOnly := true, usage := "<float>", initial := some "38.5" },
  { id := 6, name := "power", readOnly := true, usage := "<float>", initial := some "11.2" },
  { id := 7, name := "num-host-interfaces", readOnly := true, usage := "<uint32>" },
  { id := 8, name := "num-network-interfaces", readOnly := true, usage := "<uint32>" },
  { id := 9, name := "notify", readOnly := false, usage := notificationUsage }]

/-- The attributes of a network interface. -/
def seedNetwork : List Declaration := [
  { id := 1, name := "index", readOnly := true, usage := "<uint32>" },
  { id := 2, name := "tx-enable", readOnly := false, usage := "<bool>", initial := some "true" },
  { id := 3, name := "tx-laser-freq", readOnly := false, usage := "<uint64>",
    initial := some "193500000000000" },
  { id := 4, name := "output-power", readOnly := false, usage := "<float>",
    initial := some "1.0" },
  { id := 5, name := "current-output-power", readOnly := true, usage := "<float>",
    initial := some "-3.2" },
  { id := 6, name := "modulation-format", readOnly := false,
    usage := "[unknown|bpsk|dp-bpsk|qpsk|dp-qpsk|8-qam|dp-8-qam|16-qam|dp-16-qam]",
    initial := some "dp-qpsk" },
  { id := 7, name := "oper-status", readOnly := true, usage := "[unknown|initialize|ready]",
    initial := some "ready" },
  { id := 8, name := "notify", readOnly := false, usage := notificationUsage },
  { id := 0x10000001, name := "custom-list", readOnly := false, usage := "<uint32 list>",
    initial := some "1,2,3" }]

/-- The attributes of a host interface. -/
def seedHost : List Declaration := [
  { id := 1, name := "index", readOnly := true, usage := "<uint32>" },
  { id := 2, name := "fec-type", readOnly := false, usage := "[none|rs|fc]",
    initial := some "rs" },
  { id := 3, name := "tx-align-status", readOnly := true, usage := "<bitfield>",
    initial := some [] },
  { id := 4, name := "notify", readOnly := false, usage := notificationUsage }]

/-- The attributes of the seed. -/
def seedCatalogue : Catalogue := ⟨seedModule, seedNetwork, seedHost⟩

/-- The id of an attribute, zero if it is not declared. -/
def idOrZero (c : Catalogue) (type : ObjectType) (name : Text) : Nat :=
  match c.find? type name with
  | some d => d.id
  | none => 0

/-- The notifications of the seed, with the ids that a catalogue gives the attributes. -/
def seedQueue (c : Catalogue) : List QueuedNotification :=
  let report (type : ObjectType) (name value : Text) : ReportedValue :=
    ⟨idOrZero c type name, value⟩
  let notify : Text := "notify"
  [⟨.module, notify, [report .module "oper-status" "ready"]⟩,
   ⟨.module, notify, [report .module "temp" "39.0"]⟩,
   ⟨.interface .network, notify,
    [report (.interface .network) "oper-status" "ready",
     report (.interface .network) "current-output-power" "-3.1"]⟩,
   ⟨.interface .network, notify, [⟨0x20000001, "1"⟩]⟩]

/-- The transponder of the seed before its first module is created. -/
def unseeded : Simulator where
  catalogue := seedCatalogue
  slots := [⟨"1", true, 1, 2, 0, [], []⟩, ⟨"2", true, 1, 2, 0, [], []⟩,
    ⟨"3", false, 1, 2, 0, [], []⟩]
  queue := seedQueue seedCatalogue

/-- The transponder without a description. -/
def seed : Simulator := (createModule ⟨"1", true, 1, 2, 0, [], []⟩ [] unseeded).2

/-! ## Fixtures -/

/-- Declare the attributes of a fixture. No type has two of one name. -/
def declareAll (c : Catalogue) : List FixtureAttribute → Except FixtureError Catalogue
  | [] => .ok c
  | a :: rest =>
    match c.find? a.type a.name with
    | some _ => .error (.duplicateAttribute a.type a.name)
    | none => declareAll (c.declare a.type a.toDeclaration) rest

/-- The attributes of a fixture. -/
def catalogueOf (attributes : List FixtureAttribute) : Except FixtureError Catalogue :=
  if attributes.isEmpty then .ok seedCatalogue else declareAll {} attributes

/-- A value of a notification under its id: the one that is given, or that of the name. -/
def reportedValue (c : Catalogue) (type : ObjectType) (v : FixtureValue) :
    Except FixtureError ReportedValue :=
  match v.id, v.name with
  | some id, _ => .ok ⟨id, v.value⟩
  | none, some name =>
    match c.find? type name with
    | some d => .ok ⟨d.id, v.value⟩
    | none => .error (.unknownAttribute type name)
  | none, none => .error .namelessValue

/-- A notification of a fixture as it waits. -/
def queued (c : Catalogue) (n : FixtureNotification) : Except FixtureError QueuedNotification := do
  return ⟨n.type, n.name, ← n.values.mapM (reportedValue c n.type)⟩

/-- The notifications of a fixture. -/
def queueOf (c : Catalogue) (notifications : List FixtureNotification) :
    Except FixtureError (List QueuedNotification) :=
  if notifications.isEmpty then .ok (seedQueue c) else notifications.mapM (queued c)

/-- The modules of a fixture by location. -/
def inOrder (modules : List FixtureModule) : List FixtureModule :=
  modules.mergeSort fun a b => a.location.le b.location

/-- The first location that two neighbours share. -/
def sharedLocation? : List FixtureModule → Option Text
  | a :: b :: rest =>
    if a.location = b.location then some a.location else sharedLocation? (b :: rest)
  | _ => none

/-- The slot of a module of a fixture, before the module is created. -/
def slotOf (m : FixtureModule) : Slot where
  location := m.location
  present := m.present
  netifCapacity := m.netifs
  hostifCapacity := m.hostifs

/-- Create the modules that a fixture asks for. -/
def createAll : List FixtureModule → Simulator → Except FixtureError Simulator
  | [], s => .ok s
  | m :: rest, s =>
    if m.present && m.created then
      match createModule (slotOf m) [] s with
      | (.ok _, s) => createAll rest s
      | (.error e, _) => .error (.moduleFailed m.location e)
    else createAll rest s

/-- The transponder that a fixture describes. -/
def ofFixture (f : Fixture) : Except FixtureError Simulator := do
  let catalogue ← catalogueOf f.attributes
  let queue ← queueOf catalogue f.notifications
  if f.modules.isEmpty then throw .noModules
  let modules := inOrder f.modules
  match sharedLocation? modules with
  | some location => throw (.duplicateLocation location)
  | none =>
    let slots := modules.map slotOf
    createAll modules { catalogue := catalogue, slots := slots, queue := queue }

end Simulator

end TransponderShell
