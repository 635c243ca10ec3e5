import TransponderShell.Command.InvalidInput
import TransponderShell.Command.Table

/-!
# Resolving a line

A line is resolved word by word from the left. Each word is put behind the words that are already
expanded, and the candidates there decide: the only candidate takes the place of the word, a word
that is itself among several is kept, and a word where nothing can be enumerated is kept as it is.

* `expand` resolves a list of words, `resolve` a line, which it also looks up.
* `help` tells what the last word stands for, or which words are valid where the line goes wrong.
-/

namespace TransponderShell

/-- A line with its words expanded and its command looked up. -/
structure Resolved (H : Type) where
  handler : H
  command : Text
  arguments : List Text

namespace CommandTable

variable {Q H : Type} {m : Type → Type} [Monad m]

/-- Expand one word behind the words `before`, which are expanded already. -/
def expandWord (ask : Q → m (List Text)) (t : CommandTable Q H) (before : List Text)
    (word : Text) : m (Except InvalidInput Text) := do
  let candidates ← t.completion ask (Text.unwords (before ++ [word])) .probe
  match Pick.among word (Candidate.texts candidates), before with
  | .word w, _ => return .ok w
  | .ambiguous several, _ => return .error (.ambiguous before.length several)
  | .unknown, [] => return .error (.unknownCommand t.names)
  | .unknown, command :: _ =>
    if (t.completerOf command).isNone then return .ok word
    else
      let expected ← t.completion ask (Text.unwords before ++ [' ']) .probe
      if expected.isEmpty then return .ok word
      else return .error (.unknownArgument (Candidate.texts expected))

/-- Expand words behind the words `before`, which are expanded already. -/
def expandBehind (ask : Q → m (List Text)) (t : CommandTable Q H) (before : List Text) :
    List Text → m (Except InvalidInput (List Text))
  | [] => return .ok before
  | word :: rest => do
    match ← t.expandWord ask before word with
    | .ok expanded => t.expandBehind ask (before ++ [expanded]) rest
    | .error e => return .error e

/-- Expand every word of a line. -/
def expand (ask : Q → m (List Text)) (t : CommandTable Q H) (words : List Text) :
    m (Except InvalidInput (List Text)) :=
  if words.isEmpty then return .error (.unknownCommand t.names) else t.expandBehind ask [] words

/-- Expand a line and look up its command. -/
def resolve (ask : Q → m (List Text)) (t : CommandTable Q H) (line : Text) :
    m (Except InvalidInput (Resolved H)) := do
  match ← t.expand ask line.words with
  | .error e => return .error e
  | .ok words =>
    let name := words.headD []
    match t.get? name with
    | some c => return .ok ⟨c.handler, name, words.drop 1⟩
    | none => return .error (.unknownCommand t.names)

/-- What the last word of a text stands for, or the words that are valid where it goes wrong. A text
that ends in a blank asks for the word that has not been typed yet. -/
def help (ask : Q → m (List Text)) (t : CommandTable Q H) (text : Text) : m Text := do
  let words := text.words
  let words := if text.trimStart.endsBlank then words ++ [[' ']] else words
  match ← t.expand ask words with
  | .ok expanded => return Text.trim (expanded.getLastD [])
  | .error e => return Text.joinWith ", " e.candidates

end CommandTable

end TransponderShell
