import TransponderShell.Text.Basic

/-!
# TOML documents

`Toml` is a value of a document, or a document that is being built. Tables come about in several
ways, and the way says what may still be added:

* a table under a header of its own, which only gets subtables;
* a table that the header of a subtable implies, which may get a header later;
* a table that a dotted key implies, which further dotted keys extend;
* an inline table, which is complete.

`Toml.assign` adds a value under a dotted key, `Toml.openTable` and `Toml.openElement` add what the
two forms of headers ask for. They fail where a name is taken.
-/

namespace TransponderShell

/-- How a table came about. -/
inductive TableOrigin where
  | header
  /-- By the header of a table inside it. -/
  | subtable
  | dotted
  | inline
  deriving DecidableEq, Repr

/-- A value of a document. Numbers with a fraction and dates are kept as they are written. -/
inductive Toml where
  | string (value : Text)
  | integer (value : Int)
  | boolean (value : Bool)
  | float (text : Text)
  | date (text : Text)
  | array (items : List Toml)
  | table (origin : TableOrigin) (members : List (Text × Toml))
  /-- An array of tables that have headers of their own, last first. -/
  | tables (items : List (List (Text × Toml)))

namespace Toml

/-- Named values. -/
abbrev Members := List (Text × Toml)

/-- Give a name that is taken a new value. -/
def replace (name : Text) (v : Toml) (members : Members) : Members :=
  members.map fun (other, old) => if other = name then (other, v) else (other, old)

/-- Act on the table at the end of a path. Tables that are missing on the way are made, with the
origin `made`; an array of tables stands for its last one. Dotted keys do not lead through a table
with a header of its own. -/
def descend (made : TableOrigin) (act : TableOrigin → Members → Option Members) :
    List Text → TableOrigin → Members → Option Members
  | [], origin, members => act origin members
  | name :: path, _, members =>
    match members.lookup name with
    | none => (descend made act path made []).map fun sub => members ++ [(name, table made sub)]
    | some (table origin sub) =>
      if origin = .inline ∨ (made = .dotted ∧ origin = .header) then none
      else (descend made act path origin sub).map fun sub =>
        replace name (table origin sub) members
    | some (tables (last :: earlier)) =>
      (descend made act path .header last).map fun last =>
        replace name (tables (last :: earlier)) members
    | some _ => none

/-- Add a value under a dotted key. All tables on the way are the key's own. -/
def assign (path : List Text) (name : Text) (v : Toml) (members : Members) : Option Members :=
  let add (origin : TableOrigin) (members : Members) : Option Members :=
    if path.isEmpty ∨ origin = .dotted then
      match members.lookup name with
      | none => some (members ++ [(name, v)])
      | some _ => none
    else none
  descend .dotted add path .header members

/-- Add the table of a header. -/
def openTable (path : List Text) (name : Text) (members : Members) : Option Members :=
  let add (_ : TableOrigin) (members : Members) : Option Members :=
    match members.lookup name with
    | none => some (members ++ [(name, table .header [])])
    | some (table .subtable sub) => some (replace name (table .header sub) members)
    | some _ => none
  descend .subtable add path .header members

/-- Add a table to the array of tables of a header. -/
def openElement (path : List Text) (name : Text) (members : Members) : Option Members :=
  let add (_ : TableOrigin) (members : Members) : Option Members :=
    match members.lookup name with
    | none => some (members ++ [(name, tables [[]])])
    | some (tables items) => some (replace name (tables ([] :: items)) members)
    | some _ => none
  descend .subtable add path .header members

/-- Add a value under a dotted key in the table of a header. -/
def assignBelow (header path : List Text) (name : Text) (v : Toml) (members : Members) :
    Option Members :=
  descend .subtable (fun _ members => assign path name v members) header .header members

end Toml

end TransponderShell
