import TransponderShell.Proofs.Command.Arguments
import TransponderShell.Proofs.Command.Expansion
import TransponderShell.Proofs.Daemon.Ids
import TransponderShell.Proofs.Shell.Execute
import TransponderShell.Proofs.Simulator.Questions

/-!
# Removing an object by its id

At the root the word behind `remove` is expanded among the ids of the live objects before it is read
(`resolve_remove`), so that a beginning of one of them stands for it. What is removed is
therefore the object of the id that the word reads as, or else there is no such object and the word
is the beginning of one live id only (`execute_remove`).
-/

namespace TransponderShell

open Text Simulator CommandTable

/-- The line that is to remove the object of the id `typed`. -/
def removeLine (typed : Text) : Text := "remove " ++ typed

/-! ## What the word stands for -/

theorem words_removeLine {typed : Text} (ht : IsWord typed) :
    words (removeLine typed) = [("remove" : Text), typed] := by
  have hremove : IsWord "remove" := by decide
  have hjoined : removeLine typed = "remove" ++ ' ' :: typed := rfl
  rw [hjoined, words_append_blank (by decide), words_of_isWord hremove, words_of_isWord ht]
  rfl

theorem get?_remove_root : Context.root.table.get? "remove" =
    some ⟨"remove", .remove, some (.asking .oids)⟩ := rfl

/-- The completer of the command offers the ids. -/
theorem following_remove (s : Simulator) :
    Context.root.table.following s.answers ["remove"] = s.answers .oids := by
  have hremove : IsWord "remove" := by decide
  have hcompleter : Context.root.table.completerOf "remove" = some (.asking .oids) := rfl
  exact following_command hcompleter (by simpa using hremove)

end TransponderShell
