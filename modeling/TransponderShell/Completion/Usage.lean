import TransponderShell.Completion.Candidate

/-!
# Value domains

The usage of an attribute says which values it takes: `bool` and `<bool>` stand for `true` and
`false`, a list `[a|b|c]` for its members, and any other usage leaves the value free.
-/

namespace TransponderShell.Usage

/-- What stands between the brackets of a usage of the form `[…]`. -/
def members? : Text → Option Text
  | '[' :: rest => if rest.getLast? = some ']' then some rest.dropLast else none
  | _ => none

/-- The values that a usage admits, in its order; none if it leaves the value free. The members of a
list are what stands between its bars, so a member may be empty. -/
def values (usage : Text) : List Text :=
  if usage = "bool" ∨ usage = "<bool>" then ["true", "false"]
  else match members? usage with
    | some inner => pieces '|' inner
    | none => []

/-- The values of a usage that begin with `word`. -/
def valuesExtending (usage word : Text) : List Text := extending word (values usage)

/-- Whether a value may be stored under a usage. -/
def admits (usage value : Text) : Bool := (values usage).isEmpty || (values usage).contains value

end TransponderShell.Usage
