import TransponderShell.Completion.Slots
import TransponderShell.Text.Numeral

/-!
# The objects of a transponder

A transponder has slots for optical modules. A module has network interfaces on the line side and
host interfaces on the client side. Modules and interfaces are objects: they have an id and
attributes, which their type declares.

`ModuleSummary` is what a daemon reports of a slot. An object id of zero stands for no object.
-/

namespace TransponderShell

/-- The side of a module that an interface is on. -/
inductive InterfaceKind where
  | network
  | host
  deriving DecidableEq, Repr

/-- The type of an object. -/
inductive ObjectType where
  | module
  | interface (kind : InterfaceKind)
  deriving DecidableEq, Repr

namespace ObjectType

/-- The name of the type on the command line. -/
def label : ObjectType → Text
  | module => "module"
  | interface .network => "netif"
  | interface .host => "hostif"

/-- All types, in their order. -/
def all : List ObjectType := [module, interface .network, interface .host]

theorem mem_all (type : ObjectType) : type ∈ all := by
  rcases type with _ | ⟨_ | _⟩ <;> decide

end ObjectType

/-- The name of the interface type on the command line. -/
def InterfaceKind.label (kind : InterfaceKind) : Text := (ObjectType.interface kind).label

/-- An object as it is addressed. -/
structure ObjectHandle where
  type : ObjectType
  oid : Nat
  deriving DecidableEq, Repr

/-- An attribute as an object type declares it. -/
structure Attribute where
  id : Nat
  name : Text
  readOnly : Bool
  usage : Text
  deriving DecidableEq, Repr

namespace Attribute

/-- Attribute ids above this one are left to vendors. -/
def customStart : Nat := 0x10000000

/-- Whether the vendor has defined the attribute. -/
def isCustom (a : Attribute) : Bool := customStart < a.id

/-- Whether changes of the attribute can be followed. -/
def isNotification (a : Attribute) : Bool := a.usage = notificationUsage

/-- What completion needs to know of the attribute. -/
def descriptor (a : Attribute) : AttributeDescriptor := ⟨a.name, a.readOnly, a.usage⟩

end Attribute

/-- An interface below a module. -/
structure InterfaceSummary where
  index : Nat
  oid : Nat
  deriving DecidableEq, Repr

/-- A slot as the daemon reports it. -/
structure ModuleSummary where
  location : Text
  /-- Whether there is hardware in the slot. -/
  present : Bool
  /-- The module object, zero while there is none. -/
  oid : Nat
  netifs : List InterfaceSummary
  hostifs : List InterfaceSummary
  deriving DecidableEq, Repr

namespace ModuleSummary

/-- The interfaces of a side. -/
def interfaces (m : ModuleSummary) : InterfaceKind → List InterfaceSummary
  | .network => m.netifs
  | .host => m.hostifs

/-- All object ids of the slot, the module first. -/
def oids (m : ModuleSummary) : List Nat :=
  m.oid :: (m.netifs ++ m.hostifs).map InterfaceSummary.oid

end ModuleSummary

/-- The value of an attribute in a notification. -/
structure ReportedValue where
  id : Nat
  value : Text
  deriving DecidableEq, Repr

/-- What an object reports on its own account. -/
structure Notification where
  oid : Nat
  values : List ReportedValue
  deriving DecidableEq, Repr

/-- How much a daemon writes to its log. -/
inductive LogLevel where
  | debug
  | info
  | notice
  | warn
  | error
  | critical
  deriving DecidableEq, Repr

namespace LogLevel

/-- All levels, in their order. -/
def all : List LogLevel := [debug, info, notice, warn, error, critical]

/-- The name of the level on the command line. -/
def label : LogLevel → Text
  | debug => "debug"
  | info => "info"
  | notice => "notice"
  | warn => "warn"
  | error => "error"
  | critical => "critical"

end LogLevel

/-- The part of a daemon that a log level applies to. -/
inductive ApiScope where
  | objects (type : ObjectType)
  | unspecified
  deriving DecidableEq, Repr

namespace ApiScope

/-- All scopes, in their order. -/
def all : List ApiScope := ObjectType.all.map objects ++ [unspecified]

/-- The name of the scope on the command line. -/
def label : ApiScope → Text
  | objects type => type.label
  | unspecified => "unspecified"

end ApiScope

end TransponderShell
