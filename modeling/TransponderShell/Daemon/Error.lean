import TransponderShell.Daemon.Object

/-!
# Failures of a daemon

A request fails with a status code of the daemon, or for a reason that the shell itself finds. The
labels of the command line are read here, since an unknown label is such a reason.
-/

namespace TransponderShell

/-- Why a request failed. -/
inductive DaemonError where
  /-- The daemon refused the request. -/
  | status (code : Nat) (message : Text)
  /-- There is no slot at the location. -/
  | unknownModule (location : Text)
  /-- The slot is empty. -/
  | moduleNotPresent (location : Text)
  /-- The module in the slot has not been created. -/
  | moduleNotCreated (location : Text)
  /-- The attribute sends no notifications. -/
  | notNotification (name : Text)
  | invalidLogLevel (label : Text)
  | invalidApiScope (label : Text)
  | unknownObjectType (label : Text)
  deriving DecidableEq, Repr

namespace DaemonError

/-- What the operator is told. -/
def message : DaemonError → Text
  | status _ message => message
  | unknownModule location => "no module " ++ location ++ " found"
  | moduleNotPresent location => "module " ++ location ++ " not present"
  | moduleNotCreated location => "module " ++ location ++ " not created yet"
  | notNotification name => "the type of attribute " ++ name ++ " is not notification"
  | invalidLogLevel label =>
    "invalid log level: " ++ label ++ ". choose from " ++
      Text.bracketed (LogLevel.all.map LogLevel.label)
  | invalidApiScope label =>
    "invalid api type: " ++ label ++ ". choose from " ++
      Text.bracketed (ApiScope.all.map ApiScope.label)
  | unknownObjectType label =>
    "invalid object type: " ++ label ++ ". choose from " ++
      Text.bracketed (ObjectType.all.map ObjectType.label)

end DaemonError

/-- The object type of a label. -/
def ObjectType.ofLabel (label : Text) : Except DaemonError ObjectType :=
  match ObjectType.all.find? fun type => type.label = label with
  | some type => .ok type
  | none => .error (.unknownObjectType label)

/-- The log level of a label. -/
def LogLevel.ofLabel (label : Text) : Except DaemonError LogLevel :=
  match LogLevel.all.find? fun level => level.label = label with
  | some level => .ok level
  | none => .error (.invalidLogLevel label)

/-- The scope of a label. -/
def ApiScope.ofLabel (label : Text) : Except DaemonError ApiScope :=
  match ApiScope.all.find? fun scope => scope.label = label with
  | some scope => .ok scope
  | none => .error (.invalidApiScope label)

end TransponderShell
