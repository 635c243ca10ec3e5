import TransponderShell.Toml.Reader

/-!
# Records in TOML

A record is read from a table whose names are all known, or from an array that has the values in the
order of the names, with or without the last ones and perhaps with more. `Record.required`,
`Record.withDefault` and `Record.optional` take its fields. An array cannot leave an optional field
open.
-/

namespace TransponderShell.Toml

/-- The fields of a record as far as they are given. -/
structure Record where
  fields : Members
  /-- Whether the fields were given by their positions. -/
  byPosition : Bool

namespace Record

/-- The record of a table. -/
def ofMembers? (names : List Text) (members : Members) : Option Record :=
  if members.all fun (name, _) => names.contains name then some ⟨members, false⟩ else none

/-- The record of a value. -/
def of? (names : List Text) : Toml → Option Record
  | table _ members => ofMembers? names members
  | array items => some ⟨names.zip items, true⟩
  | tables items => some ⟨names.zip (items.reverse.map (table .header)), true⟩
  | _ => none

variable {α : Type}

/-- A field that must be given. -/
def required (r : Record) (name : Text) (read : Toml → Option α) : Option α :=
  (r.fields.lookup name).bind read

/-- A field with a default. -/
def withDefault (r : Record) (name : Text) (read : Toml → Option α) (default : α) : Option α :=
  match r.fields.lookup name with
  | some v => read v
  | none => some default

/-- A field that may be left open. -/
def optional (r : Record) (name : Text) (read : Toml → Option α) : Option (Option α) :=
  match r.fields.lookup name with
  | some v => (read v).map some
  | none => if r.byPosition then none else some none

end Record

/-- A string. -/
def asText : Toml → Option Text
  | string t => some t
  | _ => none

/-- A boolean. -/
def asBool : Toml → Option Bool
  | boolean b => some b
  | _ => none

/-- A number of 32 bits. -/
def asNat32 : Toml → Option Nat
  | integer (.ofNat n) => if n < Numeral.bound32 then some n else none
  | _ => none

/-- The items of an array, of either form. -/
def asList {α : Type} (read : Toml → Option α) : Toml → Option (List α)
  | array items => items.mapM read
  | tables items => items.reverse.mapM fun members => read (table .header members)
  | _ => none

/-- Whether the value is an empty array or an empty table. -/
def isEmpty : Toml → Bool
  | array [] => true
  | tables [] => true
  | table _ [] => true
  | _ => false

/-- A choice from several words: the word, or a table with the word as its only name and nothing
under it. -/
def asWord : Toml → Option Text
  | string t => some t
  | table _ [(name, v)] => if v.isEmpty then some name else none
  | _ => none

end TransponderShell.Toml
