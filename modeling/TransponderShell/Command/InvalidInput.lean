import TransponderShell.Text.Basic

/-!
# Invalid input

Why a line cannot be carried out as it was typed. Every cause but the last one carries the words
that would have been valid where the line went wrong.
-/

namespace TransponderShell

/-- A fault of a command line. -/
inductive InvalidInput where
  /-- The first word begins no command. All commands are valid. -/
  | unknownCommand (commands : List Text)
  /-- A later word begins nothing that may stand there. -/
  | unknownArgument (candidates : List Text)
  /-- The first word begins several commands and is none of them. -/
  | ambiguousCommand (candidates : List Text)
  /-- A later word begins several words that may stand there and is none of them. -/
  | ambiguousArgument (candidates : List Text)
  /-- A command does not take arguments of this shape. -/
  | usage (message : Text)
  deriving DecidableEq, Repr

namespace InvalidInput

/-- The word at `position` begins all of `candidates`. -/
def ambiguous (position : Nat) (candidates : List Text) : InvalidInput :=
  if position = 0 then ambiguousCommand candidates else ambiguousArgument candidates

/-- The words that would have been valid. -/
def candidates : InvalidInput → List Text
  | unknownCommand words | unknownArgument words => words
  | ambiguousCommand words | ambiguousArgument words => words
  | usage _ => []

/-- What the operator is told. -/
def message : InvalidInput → Text
  | unknownCommand words => "invalid command. available commands: " ++ Text.bracketed words
  | unknownArgument words => "invalid argument. candidates: " ++ Text.bracketed words
  | ambiguousCommand words => "ambiguous command. candidates: " ++ Text.bracketed words
  | ambiguousArgument words => "ambiguous argument. candidates: " ++ Text.bracketed words
  | usage message => message

end InvalidInput

end TransponderShell
