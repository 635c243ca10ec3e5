import TransponderShell.Completion.Slots

/-!
# Completers

A `Completer` describes the words that may follow a command, as data.

* `words` offers a fixed list for every word, `asking` a list that is asked for anew each time.
* `nested` offers the first word from a list and leaves the rest of the text to the completer behind
  that word.
* `slots` offers a name and a value.

`Completer.complete ask c text` are the candidates at the end of `text`. Questions of the type `Q`
are answered by `ask` in a monad: the shell asks its daemon, and a fixed answer is the identity
monad.
-/

namespace TransponderShell

/-- The words that may follow a command; `Q` is the type of the questions it may ask. -/
inductive Completer (Q : Type) where
  | words (options : List Text)
  | asking (question : Q)
  | nested (options : List (Text × Option (Completer Q)))
  | slots (s : Slots)

namespace Completer

variable {Q : Type} {m : Type → Type} [Monad m]

mutual

/-- The candidates at the end of `text`. -/
def complete (ask : Q → m (List Text)) : Completer Q → Text → m (List Candidate)
  | words options, text => pure (Candidate.matching text.wordBeforeCursor options)
  | asking question, text => do
    return Candidate.matching text.wordBeforeCursor (← ask question)
  | nested options, text =>
    let text := text.trimStart
    if text.any isBlank then
      let first := text.firstWord
      completeBehind ask options first (Text.trimStart (text.drop first.length))
    else pure (Candidate.matching text (options.map Prod.fst))
  | slots s, text => pure (s.complete text)

/-- The candidates at the end of `text` behind the first word `first`. -/
def completeBehind (ask : Q → m (List Text)) :
    List (Text × Option (Completer Q)) → Text → Text → m (List Candidate)
  | [], _, _ => pure []
  | (name, some c) :: rest, first, text =>
    if name = first then complete ask c text else completeBehind ask rest first text
  | (name, none) :: rest, first, text =>
    if name = first then pure [] else completeBehind ask rest first text

end

end Completer

end TransponderShell
