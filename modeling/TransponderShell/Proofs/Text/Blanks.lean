import Mathlib.Data.List.Induction
import TransponderShell.Proofs.Text.NewWord

/-!
# Blanks at the ends of a text

Dropping blanks at the ends does not change the words (`words_trim`), and it leaves nothing of a
text without words (`words_eq_nil_iff`). What is left at the end is a beginning of the text
(`trimEnd_append`) that ends in no blank (`endsBlank_trimEnd`); blanks behind it do not matter
(`trimEnd_append_blank`).
-/

namespace TransponderShell.Text

/-! ## Words -/

theorem words_trimEnd (t : Text) : words t.trimEnd = words t := by
  induction t using List.reverseRecOn with
  | nil => rfl
  | append_singleton t c ih =>
    by_cases hc : isBlank c = true
    · rw [words_append_blank hc, words_nil, List.append_nil, ← ih]
      simp [trimEnd, hc]
    · simp [trimEnd, hc]

/-- Blanks at the ends do not matter for the words. -/
theorem words_trim (t : Text) : words t.trim = words t := by
  rw [trim, words_trimEnd, words_trimStart]

/-- A text without words is blank. -/
theorem words_eq_nil_iff {t : Text} : words t = [] ↔ t.all isBlank = true := by
  constructor
  · intro h
    induction t with
    | nil => rfl
    | cons c rest ih =>
      by_cases hc : isBlank c = true
      · rw [words_cons_blank hc] at h
        simp [hc, ih h]
      · obtain ⟨piece, more, -, hcons⟩ := piecesBy_cons_of_not (by simpa using hc) rest
        simp [words, hcons] at h
  · intro h
    exact words_of_all_blank (List.all_eq_true.1 h)

/-! ## The end of a text -/

theorem trimEnd_append_blank {b : Text} (hb : ∀ c ∈ b, isBlank c = true) (t : Text) :
    trimEnd (t ++ b) = trimEnd t := by
  have hrev : ∀ c ∈ b.reverse, isBlank c = true := fun c hc => hb c (List.mem_reverse.1 hc)
  rw [trimEnd, List.reverse_append, List.dropWhile_append_of_pos hrev, trimEnd]

theorem trimEnd_append (t : Text) :
    ∃ b, (∀ c ∈ b, isBlank c = true) ∧ t = t.trimEnd ++ b :=
  ⟨t.rtakeWhile isBlank, fun _ hc => List.mem_rtakeWhile_imp hc,
    (List.rdropWhile_append_rtakeWhile ..).symm⟩

theorem endsBlank_trimEnd (t : Text) : t.trimEnd.endsBlank = false := by
  rcases eq_or_ne t.trimEnd [] with hnil | hne
  · rw [hnil]
    rfl
  · have hlast := List.rdropWhile_last_not isBlank t hne
    rw [endsBlank, List.getLast?_eq_some_getLast hne, Option.any_some]
    exact Bool.eq_false_iff.2 hlast

theorem trimEnd_of_not_endsBlank {t : Text} (h : t.endsBlank = false) : t.trimEnd = t := by
  refine List.rdropWhile_eq_self_iff.2 fun hne => ?_
  rw [endsBlank, List.getLast?_eq_some_getLast hne, Option.any_some] at h
  simpa using h

theorem IsWord.trim {w : Text} (h : IsWord w) : w.trim = w := by
  rw [Text.trim, h.trimStart, trimEnd_of_not_endsBlank h.not_endsBlank]

theorem trimStart_eq_nil {t : Text} (h : t.words = []) : t.trimStart = [] :=
  List.dropWhile_eq_nil_iff.2 (List.all_eq_true.1 (words_eq_nil_iff.1 h))

/-- Blanks in front of a word do not change the end of a text. -/
theorem endsBlank_trimStart {t : Text} (h : t.words ≠ []) :
    t.trimStart.endsBlank = t.endsBlank := by
  have hne : t.trimStart ≠ [] := by
    intro hnil
    rw [← words_trimStart, hnil] at h
    exact h rfl
  have hparts : t.takeWhile isBlank ++ t.trimStart = t := List.takeWhile_append_dropWhile
  calc t.trimStart.endsBlank = endsBlank (t.takeWhile isBlank ++ t.trimStart) :=
        (endsBlank_append _ hne).symm
    _ = t.endsBlank := by rw [hparts]

end TransponderShell.Text
