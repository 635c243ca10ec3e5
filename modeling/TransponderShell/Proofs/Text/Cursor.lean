import TransponderShell.Proofs.Text.NewWord

/-!
# The cursor in a line

The word before the cursor is what stands behind the last blank (`wordBeforeCursor_append_blank`),
so a text ends with it (`exists_append_wordBeforeCursor`), and dropping blanks or whole words in
front does not change it.

Positions in a line are given in bytes. `cutAt` cuts a text at a position between two characters
(`cutAt_eq_some_iff`), and `splice?` puts a text in the place of what stands between two such
positions.
-/

namespace TransponderShell.Text

/-! ## The word before the cursor -/

/-- What stands behind a blank is open if its own end is. -/
theorem IsOpen.append_cons {t : Text} (ht : IsOpen t) (s : Text) {b : Char}
    (hb : isBlank b = true) : IsOpen (s ++ b :: t) := by
  right
  rcases eq_or_ne t [] with rfl | hne
  · simp [Text.endsBlank, hb]
  · rw [List.append_cons, endsBlank_append _ hne]
    exact ht.endsBlank hne

/-- Every text is an open text and a word that may not have been begun. -/
theorem exists_partialWord (t : Text) : ∃ before w, t = before ++ w ∧ IsOpen before ∧
    (w = [] ∨ IsWord w) := by
  let typed : Char → Bool := fun c => !isBlank c
  refine ⟨t.rdropWhile typed, t.rtakeWhile typed, (List.rdropWhile_append_rtakeWhile ..).symm,
    ?_, ?_⟩
  · rcases eq_or_ne (t.rdropWhile typed) [] with hnil | hne
    · exact Or.inl hnil
    · right
      have hlast := List.rdropWhile_last_not typed t hne
      rw [Text.endsBlank, List.getLast?_eq_some_getLast hne]
      simpa [typed] using hlast
  · rcases eq_or_ne (t.rtakeWhile typed) [] with hnil | hne
    · exact Or.inl hnil
    · refine Or.inr ⟨hne, fun c hc => ?_⟩
      simpa [typed] using List.mem_rtakeWhile_imp hc

theorem wordBeforeCursor_append {before w : Text} (ho : IsOpen before) (hw : w = [] ∨ IsWord w) :
    wordBeforeCursor (before ++ w) = w := by
  rcases hw with rfl | hw
  · rw [List.append_nil, wordBeforeCursor_of_isOpen ho]
  · exact wordBeforeCursor_append_word ho hw

/-- A text ends with the word before the cursor. -/
theorem exists_append_wordBeforeCursor (t : Text) : ∃ before, t = before ++ t.wordBeforeCursor := by
  obtain ⟨before, w, rfl, ho, hw⟩ := exists_partialWord t
  exact ⟨before, by rw [wordBeforeCursor_append ho hw]⟩

/-- **What stands in front of a blank does not matter.** -/
theorem wordBeforeCursor_append_blank {b : Char} (hb : isBlank b = true) (s t : Text) :
    wordBeforeCursor (s ++ b :: t) = wordBeforeCursor t := by
  obtain ⟨before, w, rfl, ho, hw⟩ := exists_partialWord t
  rw [← List.cons_append, ← List.append_assoc, wordBeforeCursor_append (ho.append_cons s hb) hw,
    wordBeforeCursor_append ho hw]

theorem wordBeforeCursor_trimStart (t : Text) :
    wordBeforeCursor t.trimStart = wordBeforeCursor t := by
  induction t with
  | nil => rfl
  | cons c rest ih =>
    by_cases hc : isBlank c = true
    · have hbehind := wordBeforeCursor_append_blank hc [] rest
      rw [List.nil_append] at hbehind
      rw [hbehind, ← ih]
      simp [trimStart, hc]
    · simp [trimStart, hc]

theorem wordBeforeCursor_of_not_blank {t : Text} (h : ∀ c ∈ t, isBlank c = false) :
    wordBeforeCursor t = t := by
  have hw : t = [] ∨ IsWord t := (eq_or_ne t []).imp_right fun hne => ⟨hne, h⟩
  simpa using wordBeforeCursor_append isOpen_nil hw

/-- A text without words ends in no word. -/
theorem isOpen_of_words_eq_nil {t : Text} (h : t.words = []) : IsOpen t := by
  obtain ⟨before, w, rfl, ho, rfl | hw⟩ := exists_partialWord t
  · rwa [List.append_nil]
  · rw [words_append_word ho hw] at h
    exact absurd h (by simp)

/-- A text without blanks in front is a word or empty, or a word and a blank are in front of it. -/
theorem not_blank_or_exists_cons {t : Text} (ht : t.trimStart = t) :
    (∀ c ∈ t, isBlank c = false) ∨
      ∃ first b rest, IsWord first ∧ isBlank b = true ∧ t = first ++ b :: rest := by
  rcases eq_or_ne t [] with rfl | hne
  · exact Or.inl (by simp)
  obtain ⟨first, rest, hf, rfl, hrest⟩ := exists_takeWord ht hne
  cases rest with
  | nil => exact Or.inl (by simpa using hf.2)
  | cons b rest => exact Or.inr ⟨first, b, rest, hf, hrest b rfl, rfl⟩

/-! ## Positions in bytes -/

/-- The parts of a text in front of a position in bytes and behind it, if the position lies between
two characters or at an end. -/
def cutAt : Text → Nat → Option (Text × Text)
  | t, 0 => some ([], t)
  | [], _ + 1 => none
  | c :: t, n + 1 =>
    if c.utf8Size ≤ n + 1 then
      (cutAt t (n + 1 - c.utf8Size)).map fun parts => (c :: parts.1, parts.2)
    else none

/-- Put `r` in the place of what stands between two positions in bytes, if they lie between
characters, one not behind the other. -/
def splice? (line : Text) (start stop : Nat) (r : Text) : Option Text :=
  match line.cutAt start, line.cutAt stop with
  | some (front, _), some (_, back) => if start ≤ stop then some (front ++ r ++ back) else none
  | _, _ => none

/-- A text is cut behind the characters that make up the position. -/
theorem cutAt_append (s u : Text) : (s ++ u).cutAt s.byteSize = some (s, u) := by
  induction s with
  | nil => cases u <;> rfl
  | cons c s ih =>
    obtain ⟨k, hk⟩ : ∃ k, c.utf8Size = k + 1 := Nat.exists_eq_succ_of_ne_zero c.utf8Size_pos.ne'
    have hsize : byteSize (c :: s) = k + byteSize s + 1 := by
      rw [byteSize_cons, hk]
      omega
    have hrest : k + byteSize s + 1 - (k + 1) = byteSize s := by omega
    rw [List.cons_append, hsize, cutAt, hk, if_pos (by omega), hrest, ih, Option.map_some]

theorem of_cutAt {t s u : Text} {n : Nat} (h : t.cutAt n = some (s, u)) :
    t = s ++ u ∧ s.byteSize = n := by
  fun_induction cutAt t n generalizing s with
  | case1 t =>
    cases h
    exact ⟨rfl, rfl⟩
  | case2 n => cases h
  | case3 c t n hle ih =>
    obtain ⟨⟨front, back⟩, hcut, hparts⟩ := Option.map_eq_some_iff.1 h
    cases hparts
    obtain ⟨rfl, hsize⟩ := ih hcut
    refine ⟨rfl, ?_⟩
    rw [byteSize_cons, hsize]
    omega
  | case4 c t n hlt => cases h

/-- **A text is cut into two parts by the size of the first.** -/
theorem cutAt_eq_some_iff {t s u : Text} {n : Nat} :
    t.cutAt n = some (s, u) ↔ t = s ++ u ∧ s.byteSize = n := by
  constructor
  · exact of_cutAt
  · rintro ⟨rfl, rfl⟩
    exact cutAt_append s u

/-- What stands in the middle of a text is replaced. -/
theorem splice?_append (front middle back r : Text) :
    (front ++ middle ++ back).splice? front.byteSize (front ++ middle).byteSize r =
      some (front ++ r ++ back) := by
  have hstart : (front ++ middle ++ back).cutAt front.byteSize = some (front, middle ++ back) := by
    rw [List.append_assoc]
    exact cutAt_append front (middle ++ back)
  rw [splice?, hstart, cutAt_append (front ++ middle) back]
  simp

end TransponderShell.Text
