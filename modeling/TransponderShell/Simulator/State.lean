import TransponderShell.Daemon.Basic

/-!
# The state of the simulated transponder

The simulator is a daemon that keeps a transponder in memory. `Simulator` is its state: the
attributes that the types declare, the slots, the live objects with their values, and the
notifications that are waiting.

Objects are recorded twice, under their ids and in their slots. An object id is handed out once,
from a counter, and zero is none.
-/

namespace TransponderShell

/-- A declared attribute and the value that new objects have. -/
structure Declaration extends Attribute where
  initial : Option Text := none
  deriving DecidableEq, Repr

/-- The value that an attribute begins with under a usage: the first one that the usage admits, `0`
if the value is free, and none for a notification. -/
def Usage.initial (usage : Text) : Text :=
  if usage = notificationUsage then [] else (Usage.values usage).headD "0"

/-- The value that a new object has under a declaration. -/
def Declaration.value (d : Declaration) : Text := d.initial.getD (Usage.initial d.usage)

/-- The attributes that each object type declares. -/
structure Catalogue where
  module : List Declaration := []
  network : List Declaration := []
  host : List Declaration := []
  deriving DecidableEq, Repr

namespace Catalogue

/-- The declarations of a type. -/
def of (c : Catalogue) : ObjectType → List Declaration
  | .module => c.module
  | .interface .network => c.network
  | .interface .host => c.host

/-- Declare one more attribute. -/
def declare (c : Catalogue) (type : ObjectType) (d : Declaration) : Catalogue :=
  match type with
  | .module => { c with module := c.module ++ [d] }
  | .interface .network => { c with network := c.network ++ [d] }
  | .interface .host => { c with host := c.host ++ [d] }

/-- The declaration of a name. -/
def find? (c : Catalogue) (type : ObjectType) (name : Text) : Option Declaration :=
  (c.of type).find? fun d => d.name = name

end Catalogue

/-- A slot for a module. -/
structure Slot where
  location : Text
  present : Bool
  netifCapacity : Nat
  hostifCapacity : Nat
  /-- The module object, zero while there is none. -/
  oid : Nat := 0
  netifs : List InterfaceSummary := []
  hostifs : List InterfaceSummary := []
  deriving DecidableEq, Repr

namespace Slot

/-- How many interfaces of a side the module has room for. -/
def capacity (s : Slot) : InterfaceKind → Nat
  | .network => s.netifCapacity
  | .host => s.hostifCapacity

/-- The interfaces of a side. -/
def interfaces (s : Slot) : InterfaceKind → List InterfaceSummary
  | .network => s.netifs
  | .host => s.hostifs

/-- Put an interface into a list ordered by index. -/
def insertInterface (i : InterfaceSummary) : List InterfaceSummary → List InterfaceSummary
  | [] => [i]
  | j :: rest => if i.index < j.index then i :: j :: rest else j :: insertInterface i rest

/-- Attach an interface on a side. -/
def attach (s : Slot) (kind : InterfaceKind) (i : InterfaceSummary) : Slot :=
  match kind with
  | .network => { s with netifs := insertInterface i s.netifs }
  | .host => { s with hostifs := insertInterface i s.hostifs }

/-- Detach the interfaces with an object id, on either side. -/
def detach (s : Slot) (oid : Nat) : Slot :=
  { s with
    netifs := s.netifs.filter fun i => i.oid ≠ oid
    hostifs := s.hostifs.filter fun i => i.oid ≠ oid }

/-- What is reported of the slot. -/
def summary (s : Slot) : ModuleSummary where
  location := s.location
  present := s.present
  oid := s.oid
  netifs := s.netifs
  hostifs := s.hostifs

end Slot

/-- The values of an object under the names of its attributes. -/
abbrev Values := List (Text × Text)

namespace Values

/-- The value of a name. -/
def get? (values : Values) (name : Text) : Option Text := values.lookup name

/-- Give a name a value. -/
def set (name value : Text) : Values → Values
  | [] => [(name, value)]
  | (other, old) :: rest =>
    if other = name then (name, value) :: rest else (other, old) :: set name value rest

/-- Give several names values, one after another. -/
def setAll (values : Values) (pairs : List (Text × Text)) : Values :=
  pairs.foldl (fun values (name, value) => set name value values) values

end Values

/-- An object that has been created and not removed. -/
structure LiveObject where
  type : ObjectType
  values : Values
  deriving DecidableEq, Repr

/-- A notification that every object of a type sends to those who follow an attribute. -/
structure QueuedNotification where
  type : ObjectType
  name : Text
  values : List ReportedValue
  deriving DecidableEq, Repr

/-- The state of a simulated transponder. -/
structure Simulator where
  catalogue : Catalogue
  slots : List Slot := []
  /-- The live objects under their ids, in ascending order. -/
  objects : List (Nat × LiveObject) := []
  queue : List QueuedNotification := []
  /-- The id of the next object. -/
  nextOid : Nat := 1
  logLevel : Option (LogLevel × ApiScope) := none
  deriving DecidableEq, Repr

/-- Change the first element with the property `p`. -/
def updateFirst {α : Type} (p : α → Bool) (f : α → α) : List α → List α
  | [] => []
  | a :: rest => if p a then f a :: rest else a :: updateFirst p f rest

namespace Simulator

/-- The live object of an id. -/
def object? (s : Simulator) (oid : Nat) : Option LiveObject := s.objects.lookup oid

/-- Change the values of a live object. -/
def updateValues (s : Simulator) (oid : Nat) (f : Values → Values) : Simulator :=
  { s with
    objects := s.objects.map fun (id, object) =>
      if id = oid then (id, { object with values := f object.values }) else (id, object) }

/-- Change the slot at a location. -/
def updateSlotAt (s : Simulator) (location : Text) (f : Slot → Slot) : Simulator :=
  { s with slots := updateFirst (fun slot => slot.location = location) f s.slots }

/-- Change the slot of a created module. -/
def updateSlotOf (s : Simulator) (oid : Nat) (f : Slot → Slot) : Simulator :=
  { s with slots := updateFirst (fun slot => slot.oid = oid) f s.slots }

end Simulator

end TransponderShell
