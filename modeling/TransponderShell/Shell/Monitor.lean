import TransponderShell.Json.Reader
import TransponderShell.Shell.Step
import TransponderShell.Text.Quoted

/-!
# Following an attribute

`Monitor.record` is the line for a reported value. `Monitor.follow` plays the feed of the daemon
to a receiver that writes these lines: a failed write stops the output but not the feed, and it is
reported when the feed has ended without a failure of its own.
-/

namespace TransponderShell

namespace Monitor

/-- The names that attributes give an id. -/
def names (attributes : List Attribute) (id : Nat) : List Text :=
  (attributes.filter fun a => a.id = id).map Attribute.name

/-- A reported value as JSON, under its name or its number. -/
def jsonRecord (name : Json) (value : Text) : Text :=
  Json.render (.object [("name", name), ("value", Json.ofTextOrString value)])

/-- The line for a reported value: it is headed by the name of the attribute, or by the id if no
attribute has it. An id of several attributes is an error. -/
def record (attributes : List Attribute) (json : Bool) (v : ReportedValue) : Text :=
  match names attributes v.id, json with
  | [name], false => name ++ " | " ++ v.value
  | [], false => Oid.render v.id ++ " | " ++ v.value
  | [name], true => jsonRecord (.string name) v.value
  | [], true => jsonRecord (.int v.id) v.value
  | several, _ =>
    "error: more than one metadata matched for id " ++ Oid.render v.id ++ ": " ++
      Text.bracketed (several.map Text.quoted)

/-- The state of a command that follows an attribute. -/
structure Following (ω : Type) where
  sink : ω
  interrupted : Bool
  /-- Why the output has failed, if it has. -/
  failure : Option WriteError := none

/-- Write lines until one fails. After that nothing is written any more. -/
def writeAll {ω : Type} (w : Writer ω) : List Text → Following ω → Following ω
  | [], f => f
  | t :: rest, f =>
    match f.failure with
    | some _ => f
    | none =>
      match w.line t f.sink with
      | (.ok (), sink) => writeAll w rest { f with sink := sink }
      | (.error e, sink) => writeAll w rest { f with sink := sink, failure := some e }

/-- Writes a line for every value that is reported, until it is interrupted. -/
def receiver {ω : Type} (w : Writer ω) (attributes : List Attribute) (json : Bool) :
    Receiver (Following ω) where
  cancelled := Following.interrupted
  receive := fun n f => writeAll w (n.values.map (record attributes json)) f
  interrupt := fun f => { f with interrupted := true }

/-- Follow an attribute. The interrupt flag is lowered first. -/
def follow {σ ω : Type} (t : Terminal σ ω) (object : ObjectHandle) (attributes : List Attribute)
    (name : Text) : Step σ ω Unit :=
  ExceptT.mk fun world =>
    let feed := t.daemon.monitor object name t.json world.daemon
    let following : Following ω := { sink := world.sink, interrupted := false }
    let (result, daemon, f) := feed.run (receiver t.writer attributes t.json) following
    let world : World σ ω := ⟨daemon, f.sink, f.interrupted⟩
    match result, f.failure with
    | .error e, _ => (.error (.daemon e), world)
    | .ok (), some e => (.error (.output e), world)
    | .ok (), none => (.ok (), world)

end Monitor

end TransponderShell
