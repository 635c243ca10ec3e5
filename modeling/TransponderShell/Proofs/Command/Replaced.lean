import TransponderShell.Proofs.Command.Offered
import TransponderShell.Proofs.Text.Cursor

/-!
# What candidates replace

A candidate *completes* a word if it begins with it and replaces all of it, in bytes
(`Candidate.Completes`). Slots, completers and tables take apart the text in their own ways, and
whatever the answers to questions are and become, all candidates complete the word before the cursor
(`Slots.completes`, `Completer.completes`, `CommandTable.completes`).
-/

namespace TransponderShell

open Text

/-- A candidate begins with the word and replaces all of it. -/
structure Candidate.Completes (word : Text) (k : Candidate) : Prop where
  replace : k.replace = word.byteSize
  begins : word <+: k.text

theorem Candidate.completes_of_mem_matching {word : Text} {options : List Text} {k : Candidate}
    (h : k ∈ matching word options) : k.Completes word := by
  obtain ⟨-, hbegins, hreplace⟩ := of_mem_matching h
  exact ⟨hreplace, hbegins⟩

theorem Slots.completes_completeValue {s : Slots} {first word : Text} {k : Candidate}
    (h : k ∈ s.completeValue first word) : k.Completes word := by
  unfold completeValue at h
  split at h
  · split at h
    · exact Candidate.completes_of_mem_matching h
    · cases h
  · cases h

/-- Each slot completes the word that stands in it. -/
theorem Slots.completes (s : Slots) {text : Text} {k : Candidate} (h : k ∈ s.complete text) :
    k.Completes text.wordBeforeCursor := by
  unfold complete at h
  split at h
  case h_1 hwords =>
    have hword : text.wordBeforeCursor = [] := wordBeforeCursor_of_isOpen
      (isOpen_of_words_eq_nil hwords)
    exact hword ▸ Candidate.completes_of_mem_matching h
  case h_2 word hwords hend =>
    have hword : text.wordBeforeCursor = word := by simp [wordBeforeCursor, hwords, hend]
    exact hword ▸ Candidate.completes_of_mem_matching h
  case h_3 first hwords hend =>
    have hword : text.wordBeforeCursor = [] := wordBeforeCursor_of_isOpen (Or.inr hend)
    exact hword ▸ completes_completeValue h
  case h_4 first word hwords hend =>
    have hword : text.wordBeforeCursor = word := by simp [wordBeforeCursor, hwords, hend]
    exact hword ▸ completes_completeValue h
  case h_5 => cases h

namespace Completer

variable {Q σ : Type} (ask : Q → StateM σ (List Text))

mutual

/-- **A completer completes the word before the cursor**, at any depth of nesting. -/
theorem completes (c : Completer Q) {text : Text} {state : σ} {k : Candidate}
    (h : k ∈ (complete ask c text state).1) : k.Completes text.wordBeforeCursor := by
  match c with
  | words options =>
    simp only [complete] at h
    exact Candidate.completes_of_mem_matching h
  | asking question =>
    simp only [complete] at h
    exact Candidate.completes_of_mem_matching h
  | slots s =>
    simp only [complete] at h
    exact s.completes h
  | nested options =>
    simp only [complete] at h
    rw [← wordBeforeCursor_trimStart]
    rcases not_blank_or_exists_cons (trimStart_trimStart text) with
      hnot | ⟨first, b, rest, hf, hb, he⟩
    · have hany : text.trimStart.any isBlank = false := by simpa using hnot
      rw [hany] at h
      rw [wordBeforeCursor_of_not_blank hnot]
      exact Candidate.completes_of_mem_matching h
    · have hany : (first ++ b :: rest).any isBlank = true := by simp [hb]
      have hfirst : firstWord (first ++ b :: rest) = first := by
        rw [firstWord, words_append_cons hf hb, List.headD_cons]
      rw [he, if_pos hany, hfirst, trimStart_drop_append_cons first hb] at h
      rw [he, wordBeforeCursor_append_blank hb, ← wordBeforeCursor_trimStart]
      exact completesBehind options first h

theorem completesBehind (options : List (Text × Option (Completer Q))) (first : Text) {text : Text}
    {state : σ} {k : Candidate} (h : k ∈ (completeBehind ask options first text state).1) :
    k.Completes text.wordBeforeCursor := by
  match options with
  | [] =>
    simp only [completeBehind] at h
    cases h
  | (name, some c) :: rest =>
    simp only [completeBehind] at h
    split at h
    · exact completes c h
    · exact completesBehind rest first h
  | (name, none) :: rest =>
    simp only [completeBehind] at h
    split at h
    · cases h
    · exact completesBehind rest first h

end

end Completer

namespace CommandTable

variable {Q H σ : Type} (ask : Q → StateM σ (List Text)) (t : CommandTable Q H)

/-- Without blanks in front, the text is the name that is being typed, or the completer of the
command completes what stands behind the first word. -/
theorem completes_completionAt {text : Text} (htrim : text.trimStart = text) {s : σ}
    {k : Candidate} (h : k ∈ (t.completionAt ask text s).1) :
    k.Completes text.wordBeforeCursor := by
  rcases not_blank_or_exists_cons htrim with hnot | ⟨first, b, rest, hf, hb, rfl⟩
  · have hname : t.completionAt ask text = pure (Candidate.matching text t.names) := by
      rcases eq_or_ne text [] with rfl | hne
      · simp [completionAt]
      · have hw : IsWord text := ⟨hne, hnot⟩
        simp [completionAt, words_of_isWord hw, hw.not_endsBlank]
    rw [hname] at h
    rw [wordBeforeCursor_of_not_blank hnot]
    exact Candidate.completes_of_mem_matching h
  · have hbehind : words rest ≠ [] ∨ endsBlank (first ++ b :: rest) = true := by
      rcases eq_or_ne (words rest) [] with hnil | hne
      · have hopen := (isOpen_of_words_eq_nil hnil).append_cons first hb
        exact Or.inr (hopen.endsBlank (by simp))
      · exact Or.inl hne
    rw [completionAt_firstWord ask t hf hb hbehind] at h
    rw [wordBeforeCursor_append_blank hb, ← wordBeforeCursor_trimStart]
    cases hc : (pick? first t.names).bind t.completerOf with
    | none =>
      rw [hc] at h
      cases h
    | some c =>
      rw [hc] at h
      exact c.completes ask h

/-- **A table completes the word before the cursor.** -/
theorem completes {text : Text} {mode : CompletionMode} {s : σ} {k : Candidate}
    (h : k ∈ (t.completion ask text mode s).1) : k.Completes text.wordBeforeCursor := by
  unfold completion at h
  split at h
  · cases h
  · rw [← wordBeforeCursor_trimStart]
    exact t.completes_completionAt ask (trimStart_trimStart text) h

end CommandTable

end TransponderShell
