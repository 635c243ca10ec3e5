import TransponderShell.Completion.Usage

/-!
# Two slots: a name and a value

Commands on attributes take a name and perhaps a value whose domain depends on the name. `Slots`
holds the names and the values for each of them; `Slots.complete` offers names in the first slot,
the values of the name that the first word stands for in the second, and nothing after that.

`Slots.ofAttributes` draws the names from attributes and the values from their usages.
-/

namespace TransponderShell

/-- What completion knows of an attribute. -/
structure AttributeDescriptor where
  name : Text
  readOnly : Bool
  usage : Text
  deriving DecidableEq, Repr

/-- The usage of an attribute whose changes can be followed. -/
def notificationUsage : Text := "<notification>"

/-- The words for a first slot, and for a second one that depends on the first. -/
structure Slots where
  names : List Text
  values : Text → List Text
  /-- Whether values are offered; otherwise any text may stand in the second slot. -/
  offersValues : Bool := true

namespace Slots

/-- Fixed names that share their values. -/
def fixed (names values : List Text) : Slots where
  names := names
  values := fun _ => values

/-- The names of the attributes that `keep` accepts. A name has the values of the first attribute
of that name, accepted or not. -/
def ofAttributes (keep : AttributeDescriptor → Bool) (attributes : List AttributeDescriptor) :
    Slots where
  names := (attributes.filter keep).map AttributeDescriptor.name
  values := fun name =>
    match attributes.find? (fun a => a.name = name) with
    | some a => Usage.values a.usage
    | none => []

/-- Offer values in the second slot, or leave it free. -/
def offering (offers : Bool) (s : Slots) : Slots := { s with offersValues := offers }

/-- The slots of a reading command: all attributes, no values. -/
def reading (attributes : List AttributeDescriptor) : Slots :=
  (ofAttributes (fun _ => true) attributes).offering false

/-- The slots of a writing command: the attributes that can be written, and their values. -/
def writing (attributes : List AttributeDescriptor) : Slots :=
  ofAttributes (fun a => !a.readOnly) attributes

/-- The slots of a following command: the notification attributes, no values. -/
def following (attributes : List AttributeDescriptor) : Slots :=
  (ofAttributes (fun a => a.usage = notificationUsage) attributes).offering false

/-- The name that a word in the first slot stands for. -/
def resolveName (s : Slots) (word : Text) : Option Text := pick? word s.names

/-- The candidates for `word` in the second slot behind `first`. -/
def completeValue (s : Slots) (first word : Text) : List Candidate :=
  if s.offersValues then
    match s.resolveName first with
    | some name => Candidate.matching word (s.values name)
    | none => []
  else []

/-- The candidates at the end of `text`. -/
def complete (s : Slots) (text : Text) : List Candidate :=
  match text.words, text.endsBlank with
  | [], _ => Candidate.matching [] s.names
  | [word], false => Candidate.matching word s.names
  | [first], true => s.completeValue first []
  | [first, word], false => s.completeValue first word
  | _, _ => []

end Slots

end TransponderShell
