import TransponderShell.Completion.Completer

/-!
# Command tables

A `CommandTable Q H` holds commands under their names, in the order in which the names came in. A
command has a handler of the type `H` and perhaps a completer for its arguments; without one its
arguments are free.

* `insert` adds a command, or puts it in the place of the one of the same name; `erase` removes one;
  `get?` looks one up.
* `completion` are the candidates at the end of a text: names while the first word is typed, and
  then what the completer of the command offers that the first word stands for.
-/

namespace TransponderShell

/-- A command of a table. -/
structure Command (Q H : Type) where
  name : Text
  handler : H
  completer : Option (Completer Q) := none

/-- Commands in the order in which their names came in. -/
structure CommandTable (Q H : Type) where
  commands : List (Command Q H) := []

namespace CommandTable

variable {Q H : Type} {m : Type → Type} [Monad m]

/-- The table without commands. -/
def empty : CommandTable Q H := ⟨[]⟩

/-- The names, in order. -/
def names (t : CommandTable Q H) : List Text := t.commands.map Command.name

/-- The number of commands. -/
def size (t : CommandTable Q H) : Nat := t.commands.length

/-- The command of a name. -/
def get? (t : CommandTable Q H) (name : Text) : Option (Command Q H) :=
  t.commands.find? fun c => c.name = name

/-- The completer of the command of a name. -/
def completerOf (t : CommandTable Q H) (name : Text) : Option (Completer Q) :=
  (t.get? name).bind Command.completer

/-- Put a command in the place of the one of its name, or at the end. -/
def insertCommand (c : Command Q H) : List (Command Q H) → List (Command Q H)
  | [] => [c]
  | d :: rest => if d.name = c.name then c :: rest else d :: insertCommand c rest

/-- Add a command, or replace the one of its name where it stands. -/
def insert (t : CommandTable Q H) (c : Command Q H) : CommandTable Q H :=
  ⟨insertCommand c t.commands⟩

/-- Remove the command of a name. -/
def erase (t : CommandTable Q H) (name : Text) : CommandTable Q H :=
  ⟨t.commands.eraseP fun c => c.name = name⟩

/-- The table of several commands, added one after another. -/
def ofList (commands : List (Command Q H)) : CommandTable Q H := commands.foldl insert empty

/-- The candidates at the end of a text without blanks in front. -/
def completionAt (ask : Q → m (List Text)) (t : CommandTable Q H) (text : Text) :
    m (List Candidate) :=
  match text.words, text.endsBlank with
  | [], _ | [_], false => pure (Candidate.matching text t.names)
  | first :: _, _ =>
    match (pick? first t.names).bind t.completerOf with
    | some c => c.complete ask (Text.trimStart (text.drop first.length))
    | none => pure []

/-- The candidates at the end of a text. The line editor gets none before anything is typed. -/
def completion (ask : Q → m (List Text)) (t : CommandTable Q H) (text : Text)
    (mode : CompletionMode) : m (List Candidate) :=
  let text := text.trimStart
  if mode = .interactive ∧ text.isEmpty then pure [] else t.completionAt ask text

end CommandTable

end TransponderShell
