import Mathlib.Data.List.DropRight
import Mathlib.Data.List.TakeWhile
import TransponderShell.Text.Lemmas

/-!
# Texts that a new word begins behind

What is typed behind a text that is empty or ends in a blank is a word of its own
(`words_append_word`), and it is the word before the cursor (`wordBeforeCursor_append_word`).

`exists_firstWord` cuts the first word off such a text: what is left behind the blank is again a
text that a new word begins behind, so a completer that takes its first word away can go on.
-/

namespace TransponderShell.Text

/-- Whether a new word begins behind a text: the text is empty or ends in a blank. -/
def IsOpen (t : Text) : Prop := t = [] ∨ t.endsBlank = true

theorem isOpen_nil : IsOpen [] := Or.inl rfl

theorem isOpen_append_space (t : Text) : IsOpen (t ++ [' ']) := by
  have : isBlank ' ' = true := by decide
  exact Or.inr (by simp [endsBlank, this])

theorem endsBlank_append {s : Text} (t : Text) (hs : s ≠ []) :
    endsBlank (t ++ s) = endsBlank s := by
  simp [endsBlank, List.getLast?_append, List.getLast?_eq_some_getLast hs]

/-- What stands behind the first characters of an open text is open. -/
theorem IsOpen.of_append {s t : Text} (h : IsOpen (s ++ t)) : IsOpen t := by
  rcases eq_or_ne t [] with rfl | ht
  · exact isOpen_nil
  · rcases h with h | h
    · exact absurd (List.append_eq_nil_iff.1 h).2 ht
    · exact Or.inr (endsBlank_append s ht ▸ h)

theorem IsOpen.trimStart {t : Text} (h : IsOpen t) : IsOpen t.trimStart := by
  have := List.takeWhile_append_dropWhile (p := isBlank) (l := t)
  exact IsOpen.of_append (this.symm ▸ h)

theorem IsOpen.endsBlank {t : Text} (h : IsOpen t) (hne : t ≠ []) : t.endsBlank = true :=
  h.resolve_left hne

/-! ## Words -/

theorem IsWord.not_endsBlank {w : Text} (h : IsWord w) : w.endsBlank = false := by
  have hlast : w.getLast? = some (w.getLast h.1) := List.getLast?_eq_some_getLast h.1
  simp [Text.endsBlank, hlast, h.2 _ (List.getLast_mem h.1)]

theorem IsWord.trimStart {w : Text} (h : IsWord w) : w.trimStart = w := by
  obtain ⟨c, rest, rfl⟩ := List.exists_cons_of_ne_nil h.1
  simp [Text.trimStart, h.2 c (List.mem_cons_self ..)]

/-- Blanks are dropped in front of a text, whatever word follows it. -/
theorem trimStart_append_word {w : Text} (t : Text) (hw : IsWord w) :
    trimStart (t ++ w) = trimStart t ++ w := by
  rw [trimStart, List.dropWhile_append]
  split
  · rename_i hnil
    rw [trimStart, List.isEmpty_iff.1 hnil, List.nil_append]
    exact hw.trimStart
  · rfl

theorem trimStart_trimStart (t : Text) : t.trimStart.trimStart = t.trimStart :=
  List.dropWhile_idempotent ..

/-- **A word behind an open text is a word of its own.** -/
theorem words_append_word {t w : Text} (ht : IsOpen t) (hw : IsWord w) :
    words (t ++ w) = words t ++ [w] := by
  rcases ht with rfl | ht
  · simpa using words_of_isWord hw
  · obtain ⟨s, c, rfl⟩ : ∃ s c, t = s ++ [c] := by
      rcases List.eq_nil_or_concat t with rfl | ⟨s, c, h⟩
      · simp [Text.endsBlank] at ht
      · exact ⟨s, c, by simpa using h⟩
    have hc : isBlank c = true := by simpa [Text.endsBlank] using ht
    rw [List.append_assoc, List.singleton_append, words_append_blank hc, words_append_blank hc,
      words_of_isWord hw, words_nil, List.append_nil]

theorem endsBlank_append_word {w : Text} (t : Text) (hw : IsWord w) :
    endsBlank (t ++ w) = false := by
  rw [endsBlank_append t hw.1, hw.not_endsBlank]

theorem wordBeforeCursor_of_isOpen {t : Text} (ht : IsOpen t) : t.wordBeforeCursor = [] := by
  rcases ht with rfl | ht
  · rfl
  · simp [wordBeforeCursor, ht]

theorem wordBeforeCursor_append_word {t w : Text} (ht : IsOpen t) (hw : IsWord w) :
    wordBeforeCursor (t ++ w) = w := by
  simp [wordBeforeCursor, endsBlank_append_word t hw, words_append_word ht hw]

/-! ## The first word -/

/-- A text without blanks in front begins with its first word, and a blank follows if anything
does. -/
theorem exists_takeWord {t : Text} (ht : t.trimStart = t) (hne : t ≠ []) :
    ∃ first rest, IsWord first ∧ t = first ++ rest ∧ ∀ c ∈ rest.head?, isBlank c = true := by
  refine ⟨t.takeWhile fun c => !isBlank c, t.dropWhile fun c => !isBlank c, ⟨?_, ?_⟩,
    List.takeWhile_append_dropWhile.symm, ?_⟩
  · obtain ⟨c, rest, rfl⟩ := List.exists_cons_of_ne_nil hne
    cases hc : isBlank c with
    | false => simp [hc]
    | true =>
      -- a blank in front would have been dropped
      have hlen := congrArg List.length ht
      have hle := (List.dropWhile_sublist (p := isBlank) (l := rest)).length_le
      simp only [trimStart, List.dropWhile_cons, hc, if_true, List.length_cons] at hlen
      omega
  · intro c hc
    simpa using List.mem_takeWhile_imp hc
  · intro c hc
    have := List.head?_dropWhile_not (fun c => !isBlank c) t
    simp_all

/-- **An open text that begins with no blank is a word, a blank and an open text.** -/
theorem exists_firstWord {t : Text} (ht : t.trimStart = t) (hne : t ≠ []) (ho : IsOpen t) :
    ∃ first c rest, IsWord first ∧ isBlank c = true ∧ t = first ++ c :: rest ∧ IsOpen rest := by
  obtain ⟨first, rest, hw, rfl, hrest⟩ := exists_takeWord ht hne
  cases rest with
  | nil =>
    have := ho.endsBlank hne
    simp [hw.not_endsBlank] at this
  | cons c rest =>
    have hopen : IsOpen ((first ++ [c]) ++ rest) := by simpa using ho
    exact ⟨first, c, rest, hw, hrest c rfl, rfl, hopen.of_append⟩

/-- A piece without blanks that a text begins with ends before the first blank. -/
theorem prefix_of_append_eq {w s t u : Text} {b : Char} (hw : ∀ c ∈ w, isBlank c = false)
    (hb : isBlank b = true) (h : w ++ s = t ++ b :: u) : w <+: t := by
  rcases List.append_eq_append_iff.1 h with ⟨more, rfl, -⟩ | ⟨more, rfl, hmore⟩
  · exact List.prefix_append ..
  · cases more with
    | nil => simp
    | cons c more =>
      obtain ⟨rfl, -⟩ := List.cons.inj hmore
      simp [hw b (by simp)] at hb

theorem words_append_cons {first : Text} {c : Char} (hw : IsWord first) (hc : isBlank c = true)
    (rest : Text) : words (first ++ c :: rest) = first :: words rest := by
  rw [words_append_blank hc, words_of_isWord hw, List.singleton_append]

/-- **An open text is blank, or its first word, a blank and an open text follow each other.** -/
theorem IsOpen.blank_or_firstWord {t : Text} (h : IsOpen t) :
    (t.trimStart = [] ∧ t.words = []) ∨ ∃ first c rest, IsWord first ∧ isBlank c = true ∧
      t.trimStart = first ++ c :: rest ∧ t.words = first :: words rest ∧ IsOpen rest := by
  rcases eq_or_ne t.trimStart [] with hnil | hne
  · exact Or.inl ⟨hnil, by rw [← words_trimStart, hnil, words_nil]⟩
  · obtain ⟨first, c, rest, hf, hc, he, ho⟩ :=
      exists_firstWord (trimStart_trimStart t) hne h.trimStart
    exact Or.inr ⟨first, c, rest, hf, hc, he, by
      rw [← words_trimStart, he, words_append_cons hf hc], ho⟩

/-- What is left behind the first word, without blanks in front. -/
theorem trimStart_drop_append_cons (first : Text) {c : Char} (hc : isBlank c = true) (rest : Text) :
    trimStart ((first ++ c :: rest).drop first.length) = trimStart rest := by
  simp [trimStart, hc]

/-- The first of several words is followed by a space. -/
theorem exists_unwords_cons (w : Text) (rest : List Text) :
    ∃ tail, unwords (w :: rest) ++ [' '] = w ++ ' ' :: tail := by
  cases rest with
  | nil => exact ⟨[], by simp [unwords, joinWith]⟩
  | cons next more =>
    exact ⟨unwords (next :: more) ++ [' '], by simp [unwords, joinWith, List.intercalate_cons_cons]⟩

/-- One more word stands behind a space. -/
theorem unwords_concat {before : List Text} (hne : before ≠ []) (w : Text) :
    unwords (before ++ [w]) = unwords before ++ [' '] ++ w := by
  induction before with
  | nil => exact absurd rfl hne
  | cons first rest ih =>
    cases rest with
    | nil => simp [unwords, joinWith, List.intercalate_cons_cons]
    | cons next more =>
      have := ih (by simp)
      simp only [unwords, joinWith, List.cons_append, List.intercalate_cons_cons] at this ⊢
      simp [this]

end TransponderShell.Text
