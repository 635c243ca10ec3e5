import TransponderShell.Text.Basic

/-!
# Candidates

A candidate is a word that may stand at the cursor, with the number of bytes before the cursor that
it replaces. `matching word options` are the options that extend `word`, in their order; `pick`
decides what a typed word stands for: an option that it extends to in one way only, or one that it
equals.
-/

namespace TransponderShell

/-- A completion for the word under the cursor. -/
structure Candidate where
  text : Text
  /-- The number of bytes before the cursor that `text` replaces. -/
  replace : Nat
  deriving DecidableEq, Repr

/-- Who asks for candidates. -/
inductive CompletionMode where
  /-- The line editor, on behalf of the operator. -/
  | interactive
  /-- The validation of a line that has been entered. -/
  | probe
  deriving DecidableEq, Repr

/-- The options that begin with `word`. -/
def extending (word : Text) (options : List Text) : List Text :=
  options.filter fun option => word.isPrefixOf option

namespace Candidate

/-- The candidates for `word`: the options that begin with it, each replacing the whole word. -/
def matching (word : Text) (options : List Text) : List Candidate :=
  (extending word options).map fun option => ⟨option, word.byteSize⟩

/-- The words of candidates, in order. -/
def texts (candidates : List Candidate) : List Text := candidates.map Candidate.text

end Candidate

/-- What a typed word stands for among the words that extend it. -/
inductive Pick where
  /-- No word extends it. -/
  | unknown
  /-- It stands for this word. -/
  | word (w : Text)
  /-- Several words extend it and it is none of them. -/
  | ambiguous (words : List Text)
  deriving DecidableEq, Repr

/-- Decide what `typed` stands for, given the words that extend it: the only one, or itself if it is
among several. -/
def Pick.among (typed : Text) : List Text → Pick
  | [] => unknown
  | [w] => word w
  | words => if typed ∈ words then word typed else ambiguous words

/-- Decide what `typed` stands for among all `options`. -/
def pick (typed : Text) (options : List Text) : Pick := Pick.among typed (extending typed options)

/-- The word that `typed` stands for among all `options`, if there is one. -/
def pick? (typed : Text) (options : List Text) : Option Text :=
  match pick typed options with
  | .word w => some w
  | _ => none

end TransponderShell
