import TransponderShell.Completion.Lemmas
import TransponderShell.Proofs.Text.NewWord

/-!
# Completion of a partial word

`Candidate.narrow w candidates` are the candidates that begin with the word `w`, each of them
replacing it, in their order and as often as they stand there.

The candidates behind an open text and a partial word are those behind the open text alone, narrowed
down to the word (`Slots.complete_append`, `Completer.complete_append`). So a completer takes a word
that is being typed for the same argument as the word that has not been begun.
-/

namespace TransponderShell

open Text

namespace Candidate

@[simp] theorem texts_nil : texts [] = [] := rfl

/-- The candidates that begin with `word`, each replacing all of it. -/
def narrow (word : Text) (candidates : List Candidate) : List Candidate :=
  (candidates.filter fun c => word.isPrefixOf c.text).map fun c =>
    { c with replace := word.byteSize }

@[simp] theorem narrow_nil (word : Text) : narrow word [] = [] := rfl

@[simp] theorem texts_narrow (word : Text) (candidates : List Candidate) :
    texts (narrow word candidates) = extending word (texts candidates) := by
  simp only [texts, narrow, extending, List.filter_map, List.map_map]
  rfl

/-- What is offered for a word is what is offered for no word, narrowed down. -/
@[simp] theorem narrow_matching_nil (word : Text) (options : List Text) :
    narrow word (matching [] options) = matching word options := by
  simp only [narrow, matching, extending_nil, List.filter_map, List.map_map]
  rfl

end Candidate

/-- The slot of a word does not depend on whether the word has been begun. -/
theorem Slots.complete_append (s : Slots) {t w : Text} (ht : IsOpen t) (hw : IsWord w) :
    s.complete (t ++ w) = Candidate.narrow w (s.complete t) := by
  have hvalue (first : Text) :
      s.completeValue first w = Candidate.narrow w (s.completeValue first []) := by
    simp only [completeValue]
    split
    · split <;> simp
    · simp
  simp only [complete, words_append_word ht hw, endsBlank_append_word t hw]
  rcases ht with rfl | ht
  · simp
  · rw [ht]
    match t.words with
    | [] => simp
    | [first] => exact hvalue first
    | _ :: _ :: _ => simp

namespace Completer

variable {Q : Type} {m : Type → Type} [Monad m] [LawfulMonad m]

mutual

/-- **The candidates for a partial word are those for no word, narrowed down.** The same questions
are asked for both. -/
theorem complete_append (ask : Q → m (List Text)) (c : Completer Q) {t w : Text}
    (ht : IsOpen t) (hw : IsWord w) :
    complete ask c (t ++ w) = Candidate.narrow w <$> complete ask c t := by
  match c with
  | words options =>
    simp [complete, wordBeforeCursor_append_word ht hw, wordBeforeCursor_of_isOpen ht]
  | asking question =>
    simp [complete, wordBeforeCursor_append_word ht hw, wordBeforeCursor_of_isOpen ht]
  | slots s => simp [complete, s.complete_append ht hw]
  | nested options =>
    simp only [complete, trimStart_append_word t hw]
    rcases Classical.em (t.trimStart = []) with hnil | hne
    · have : w.any isBlank = false := by simpa using hw.2
      simp [hnil, this]
    · obtain ⟨first, b, rest, hf, hb, he, ho⟩ :=
        exists_firstWord (trimStart_trimStart t) hne ht.trimStart
      have hany (u : Text) : (first ++ b :: u).any isBlank = true := by simp [hb]
      have hfirst (u : Text) : firstWord (first ++ b :: u) = first := by
        rw [firstWord, words_append_cons hf hb, List.headD_cons]
      -- a blank follows the first word, so the word at the end does not become part of it
      rw [he, List.append_assoc, List.cons_append]
      simp only [hany, hfirst, if_true, trimStart_drop_append_cons _ hb,
        trimStart_append_word rest hw]
      exact completeBehind_append ask options first ho.trimStart hw

theorem completeBehind_append (ask : Q → m (List Text))
    (options : List (Text × Option (Completer Q))) (first : Text) {t w : Text}
    (ht : IsOpen t) (hw : IsWord w) :
    completeBehind ask options first (t ++ w) =
      Candidate.narrow w <$> completeBehind ask options first t := by
  match options with
  | [] => simp [completeBehind]
  | (name, some c) :: rest =>
    simp only [completeBehind]
    split
    · exact complete_append ask c ht hw
    · exact completeBehind_append ask rest first ht hw
  | (name, none) :: rest =>
    simp only [completeBehind]
    split
    · simp
    · exact completeBehind_append ask rest first ht hw

end

end Completer

end TransponderShell
