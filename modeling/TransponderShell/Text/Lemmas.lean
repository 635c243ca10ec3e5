import TransponderShell.Text.Basic

/-!
# Pieces, words and the order of texts

What cutting a list at separators does to its parts. `piecesBy_append_cons` is the equation that the
rest follows from: a separator ends one piece and begins another.

* `pieces_intercalate` says that parts that were joined with a separator are read back by cutting at
  it.
* `mem_words` says that words are words, and `words_unwords` that words joined with spaces are read
  back.
* `le_total`, `le_trans` and `le_antisymm` say that `le` orders texts.
-/

namespace TransponderShell

section Pieces

variable {α : Type} {p : α → Bool}

theorem piecesBy_ne_nil (p : α → Bool) (as : List α) : piecesBy p as ≠ [] := by
  cases as with
  | nil => simp [piecesBy]
  | cons a rest =>
    simp only [piecesBy]
    split
    · simp
    · split <;> simp

/-- Pieces of a list that begins with no separator. -/
theorem piecesBy_cons_of_not {a : α} (h : p a = false) (as : List α) :
    ∃ piece more, piecesBy p as = piece :: more ∧ piecesBy p (a :: as) = (a :: piece) :: more := by
  match hp : piecesBy p as with
  | [] => exact absurd hp (piecesBy_ne_nil p as)
  | piece :: more => exact ⟨piece, more, rfl, by simp [piecesBy, h, hp]⟩

@[simp] theorem piecesBy_cons_of {a : α} (h : p a = true) (as : List α) :
    piecesBy p (a :: as) = [] :: piecesBy p as := by
  simp [piecesBy, h]

/-- A separator ends one piece and begins another. -/
theorem piecesBy_append_cons {a : α} (h : p a = true) (xs ys : List α) :
    piecesBy p (xs ++ a :: ys) = piecesBy p xs ++ piecesBy p ys := by
  induction xs with
  | nil => simp [piecesBy, h]
  | cons x xs ih =>
    by_cases hx : p x = true
    · simp [piecesBy, hx, ih]
    · obtain ⟨piece, more, h₁, h₂⟩ := piecesBy_cons_of_not (by simpa using hx) xs
      simp [piecesBy, hx, ih, h₁]

/-- A list without separators is one piece. -/
theorem piecesBy_eq_singleton {as : List α} (h : ∀ a ∈ as, p a = false) : piecesBy p as = [as] := by
  induction as with
  | nil => rfl
  | cons a rest ih =>
    have ha := h a (List.mem_cons_self ..)
    simp [piecesBy, ha, ih fun b hb => h b (List.mem_cons_of_mem _ hb)]

/-- No piece contains a separator. -/
theorem not_of_mem_piecesBy {as piece : List α} (h : piece ∈ piecesBy p as) :
    ∀ a ∈ piece, p a = false := by
  induction as generalizing piece with
  | nil => simp_all [piecesBy]
  | cons a rest ih =>
    by_cases ha : p a = true
    · rw [piecesBy_cons_of ha, List.mem_cons] at h
      rcases h with rfl | h
      · simp
      · exact ih h
    · obtain ⟨first, more, h₁, h₂⟩ := piecesBy_cons_of_not (by simpa using ha) rest
      rw [h₂, List.mem_cons] at h
      rcases h with rfl | h
      · intro b hb
        rcases List.mem_cons.1 hb with rfl | hb
        · simpa using ha
        · exact ih (h₁ ▸ List.mem_cons_self ..) b hb
      · exact ih (h₁ ▸ List.mem_cons_of_mem _ h)

variable [DecidableEq α] {sep : α}

/-- The pieces of parts that were joined with the separator are the parts. -/
theorem pieces_intercalate {parts : List (List α)} (hne : parts ≠ [])
    (h : ∀ part ∈ parts, sep ∉ part) : pieces sep ([sep].intercalate parts) = parts := by
  have one {part : List α} (hp : sep ∉ part) : piecesBy (· = sep) part = [part] :=
    piecesBy_eq_singleton fun a ha => by
      simpa using fun e : a = sep => hp (e ▸ ha)
  induction parts with
  | nil => exact absurd rfl hne
  | cons part rest ih =>
    cases rest with
    | nil => simpa [pieces] using one (h part (List.mem_cons_self ..))
    | cons next more =>
      rw [List.intercalate_cons_cons, List.append_assoc, List.singleton_append, pieces,
        piecesBy_append_cons (by simp), one (h part (List.mem_cons_self ..))]
      have := ih (by simp) fun q hq => h q (List.mem_cons_of_mem _ hq)
      simpa [pieces] using this

end Pieces

namespace Text

/-- A word is not empty and contains no blank. -/
def IsWord (w : Text) : Prop := w ≠ [] ∧ ∀ c ∈ w, isBlank c = false

instance (w : Text) : Decidable (IsWord w) :=
  decidable_of_iff ((!w.isEmpty && w.all fun c => !isBlank c) = true) (by simp [IsWord])

@[simp] theorem words_nil : words [] = [] := rfl

/-- A blank separates the words before it from the words behind it. -/
theorem words_append_blank {c : Char} (h : isBlank c = true) (s t : Text) :
    words (s ++ c :: t) = words s ++ words t := by
  simp [words, piecesBy_append_cons h]

theorem words_cons_blank {c : Char} (h : isBlank c = true) (t : Text) :
    words (c :: t) = words t := by
  simpa using words_append_blank h [] t

/-- A word is its only word. -/
theorem words_of_isWord {w : Text} (h : IsWord w) : words w = [w] := by
  simp [words, piecesBy_eq_singleton h.2, h.1]

/-- The words of a text are words. -/
theorem mem_words {t w : Text} (h : w ∈ words t) : IsWord w := by
  obtain ⟨hw, hne⟩ := List.mem_filter.1 h
  exact ⟨by simpa using hne, not_of_mem_piecesBy hw⟩

/-- Blanks only have no words. -/
theorem words_of_all_blank {t : Text} (h : ∀ c ∈ t, isBlank c = true) : words t = [] := by
  induction t with
  | nil => rfl
  | cons c rest ih =>
    rw [words_cons_blank (h c (List.mem_cons_self ..))]
    exact ih fun d hd => h d (List.mem_cons_of_mem _ hd)

/-- Blanks in front do not matter for the words. -/
theorem words_trimStart (t : Text) : words t.trimStart = words t := by
  induction t with
  | nil => rfl
  | cons c rest ih =>
    by_cases hc : isBlank c = true
    · rw [words_cons_blank hc, ← ih]
      simp [trimStart, hc]
    · simp [trimStart, hc]

/-- Words that were joined with spaces are read back. -/
theorem words_unwords {ws : List Text} (h : ∀ w ∈ ws, IsWord w) : words (unwords ws) = ws := by
  induction ws with
  | nil => rfl
  | cons w rest ih =>
    have hw := h w (List.mem_cons_self ..)
    cases rest with
    | nil => simpa [unwords, joinWith] using words_of_isWord hw
    | cons next more =>
      have hr := ih fun q hq => h q (List.mem_cons_of_mem _ hq)
      simp only [unwords, joinWith] at hr ⊢
      rw [List.intercalate_cons_cons, List.append_assoc, List.singleton_append,
        words_append_blank (by decide), words_of_isWord hw, hr]
      rfl

@[simp] theorem byteSize_nil : byteSize [] = 0 := rfl

@[simp] theorem byteSize_cons (c : Char) (t : Text) : byteSize (c :: t) = c.utf8Size + byteSize t :=
  rfl

@[simp] theorem byteSize_append (s t : Text) : byteSize (s ++ t) = byteSize s + byteSize t := by
  induction s with
  | nil => simp
  | cons c rest ih => simp [ih, Nat.add_assoc]

/-! ## The order of texts -/

@[simp] theorem nil_le (t : Text) : le [] t = true := by
  cases t <;> rfl

@[simp] theorem cons_le_nil (c : Char) (t : Text) : le (c :: t) [] = false := rfl

theorem cons_le_cons {c d : Char} {s t : Text} :
    le (c :: s) (d :: t) = true ↔ c.toNat < d.toNat ∨ c = d ∧ le s t = true := by
  by_cases h : c = d
  · simp [le, h]
  · simp [le, h]

/-- Of two texts one comes first, or they are the same. -/
theorem le_total (s t : Text) : (le s t || le t s) = true := by
  induction s generalizing t with
  | nil => simp
  | cons c s ih =>
    cases t with
    | nil => simp
    | cons d t =>
      rw [Bool.or_eq_true, cons_le_cons, cons_le_cons]
      have := ih t
      rw [Bool.or_eq_true] at this
      by_cases h : c = d
      · subst h
        simpa using this
      · have : c.toNat ≠ d.toNat := fun e => h (Char.toNat_inj.1 e)
        omega

theorem le_trans {s t u : Text} (h₁ : le s t = true) (h₂ : le t u = true) : le s u = true := by
  induction s generalizing t u with
  | nil => simp
  | cons c s ih =>
    match t, u with
    | [], _ => simp at h₁
    | _ :: _, [] => simp at h₂
    | d :: t, e :: u =>
      rw [cons_le_cons] at h₁ h₂ ⊢
      rcases h₁ with h₁ | ⟨rfl, h₁⟩
      · rcases h₂ with h₂ | ⟨rfl, _⟩
        · exact Or.inl (by omega)
        · exact Or.inl h₁
      · rcases h₂ with h₂ | ⟨rfl, h₂⟩
        · exact Or.inl h₂
        · exact Or.inr ⟨rfl, ih h₁ h₂⟩

theorem le_antisymm {s t : Text} (h₁ : le s t = true) (h₂ : le t s = true) : s = t := by
  induction s generalizing t with
  | nil =>
    cases t with
    | nil => rfl
    | cons d t => simp at h₂
  | cons c s ih =>
    cases t with
    | nil => simp at h₁
    | cons d t =>
      rw [cons_le_cons] at h₁ h₂
      rcases h₁ with h₁ | ⟨rfl, h₁⟩
      · rcases h₂ with h₂ | ⟨rfl, _⟩
        · omega
        · omega
      · rcases h₂ with h₂ | ⟨_, h₂⟩
        · omega
        · rw [ih h₁ h₂]

end Text

end TransponderShell
