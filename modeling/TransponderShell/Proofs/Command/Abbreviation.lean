import TransponderShell.Proofs.Command.Resolved

/-!
# Completion behind abbreviated words

The line editor completes the line as it is typed, abbreviations included, while validation
completes the words that these stand for. Both are offered the same as long as no completer looks
words up behind a nested one (`Completer.Flat`), where an abbreviation is not found.

* `StandsFor.pick?_eq` says that a word and what it stands for stand for the same words, and
  `Expands.following_eq` that the same is offered behind a line and behind its expansion.
* `texts_completion` and `texts_completion_unwords` say what the completion of a text is, whoever
  asks for it, in terms of what is offered behind its words.
* `Expands.expand_offered` says that a word that is offered there expands to itself.
-/

namespace TransponderShell

open Text

/-- A word and what it stands for stand for the same word among all that may stand there. -/
theorem StandsFor.pick?_eq {position : Nat} {valid : List Text} {typed w : Text}
    (h : StandsFor position valid typed w) : pick? typed valid = pick? w valid := by
  cases h with
  | free | exact => rfl
  | only h =>
    have hmem : w ∈ extending typed valid := by simp [h]
    rw [pick?_eq_some_iff.2 (Or.inr h),
      pick?_eq_some_iff.2 (Or.inl ⟨(mem_extending.1 hmem).1, rfl⟩)]

/-- Nothing can be completed behind the options of a nested completer. -/
def Completer.Flat {Q : Type} : Completer Q → Prop
  | nested options => ∀ option ∈ options, option.2 = none
  | _ => True

section Completers

variable {Q : Type} {answer : Q → List Text}

theorem Completer.offersNested_of_flat {options : List (Text × Option (Completer Q))}
    (h : ∀ option ∈ options, option.2 = none) (first : Text) (rest : List Text) :
    offersNested answer options first rest = [] := by
  match options with
  | [] => rfl
  | (name, some c) :: more => exact absurd (h _ (List.mem_cons_self ..)) (by simp)
  | (name, none) :: more =>
    simp only [offersNested]
    split
    · rfl
    · exact offersNested_of_flat (fun o ho => h o (List.mem_cons_of_mem _ ho)) first rest

/-- **A flat completer offers the same behind abbreviated arguments.** Only slots look at an
argument, the first one, and they look for what it stands for. -/
theorem Completer.Flat.offers_eq {c : Completer Q} (hc : c.Flat) {typed expanded : List Text}
    (hlen : expanded.length = typed.length)
    (hfirst : ∀ word ∈ typed.head?, ∀ w ∈ expanded.head?,
      StandsFor 1 (c.offers answer []) word w) :
    c.offers answer typed = c.offers answer expanded := by
  match typed, expanded with
  | [], [] => rfl
  | word :: typed, w :: expanded =>
    match c with
    | .words options | .asking question => simp [offers]
    | .nested options => rw [offers, offers, offersNested_of_flat hc, offersNested_of_flat hc]
    | .slots s =>
      have hpick : s.resolveName word = s.resolveName w := by
        have hword := hfirst word rfl w rfl
        rw [offers, Slots.offers] at hword
        exact hword.pick?_eq
      match typed, expanded with
      | [], [] => rw [offers, offers, Slots.offers, Slots.offers, hpick]
      | _ :: _, _ :: _ => rfl

end Completers

namespace CommandTable

variable {Q H : Type} {answer : Q → List Text} {t : CommandTable Q H}

/-- No completer of a table looks words up behind a nested one. -/
def Flat (t : CommandTable Q H) : Prop :=
  ∀ command ∈ t.commands, ∀ c ∈ command.completer, c.Flat

/-- A name that is picked from a table has a completer of the table. -/
theorem mem_of_completerOf {name : Text} {c : Completer Q} (h : t.completerOf name = some c) :
    ∃ command ∈ t.commands, command.completer = some c := by
  obtain ⟨command, hcommand, hof⟩ := Option.bind_eq_some_iff.1 h
  exact ⟨command, List.mem_of_find?_eq_some hcommand, hof⟩

/-- **What is offered behind a line is offered behind its expansion.** -/
theorem Expands.following_eq {typed expanded : List Text} (h : t.Expands answer typed expanded)
    (ht : t.Flat) (htyped : ∀ w ∈ typed, IsWord w) (hexpanded : ∀ w ∈ expanded, IsWord w) :
    t.following answer typed = t.following answer expanded := by
  match typed, expanded, h with
  | [], [], _ => rfl
  | first :: typed, command :: expanded, ⟨hlen, hall⟩ =>
    have hcommand : StandsFor 0 t.names first command := by
      simpa using hall 0 first command rfl rfl
    rw [following_cons htyped, following_cons hexpanded, hcommand.pick?_eq]
    cases hc : (pick? command t.names).bind t.completerOf with
    | none => rfl
    | some c =>
      obtain ⟨found, -, hof⟩ := Option.bind_eq_some_iff.1 hc
      obtain ⟨entry, hentry, hcompleter⟩ := mem_of_completerOf hof
      refine (ht entry hentry c hcompleter).offers_eq (Nat.succ.inj hlen) fun word hword w hw => ?_
      have hone : ∀ v ∈ [command], IsWord v := fun v hv => hexpanded v (by simp_all)
      have hoffers : t.following answer [command] = c.offers answer [] := by
        rw [following_cons hone, hc, Option.elim_some]
      rw [← hoffers]
      refine hall 1 word w ?_ ?_
      · rw [List.getElem?_cons_succ, ← List.head?_eq_getElem?]
        exact hword
      · rw [List.getElem?_cons_succ, ← List.head?_eq_getElem?]
        exact hw

/-- Once a word is typed, the line editor is offered what validation is offered. -/
theorem completion_of_words {m : Type → Type} [Monad m] (ask : Q → m (List Text)) {text : Text}
    (h : text.words ≠ []) (mode : CompletionMode) :
    t.completion ask text mode = t.completion ask text .probe := by
  have hne : text.trimStart.isEmpty = false := by
    rw [List.isEmpty_eq_false_iff]
    intro hnil
    rw [← words_trimStart, hnil] at h
    exact h rfl
  simp [completion, hne]

/-- **The completion of a text** are the words that may stand behind its words and complete the one
that is being typed. -/
theorem texts_completion {before : Text} (ho : IsOpen before) {w : Text} (hw : w = [] ∨ IsWord w)
    (hne : before.words ≠ [] ∨ w ≠ []) (mode : CompletionMode) :
    Candidate.texts (Id.run (t.completion (fun q => pure (answer q)) (before ++ w) mode)) =
      extending w (t.following answer before.words) := by
  have hwords : (before ++ w).words ≠ [] := by
    rcases hw with rfl | hw
    · simpa using hne
    · simp [words_append_word ho hw]
  have hoffered : t.offered answer (before ++ w) = extending w (t.offered answer before) := by
    rcases hw with rfl | hw
    · simp
    · exact offered_append answer t ho hw
  rw [completion_of_words _ hwords, ← offered_of_isOpen ho]
  exact hoffered

/-- The completion of words that are joined with spaces. -/
theorem texts_completion_unwords {before : List Text} (hbefore : ∀ v ∈ before, IsWord v) {w : Text}
    (hw : w = [] ∨ IsWord w) (hne : before ≠ [] ∨ w ≠ []) (mode : CompletionMode) :
    Candidate.texts
        (Id.run (t.completion (fun q => pure (answer q)) (unwords (before ++ [w])) mode)) =
      extending w (t.following answer before) := by
  rcases eq_or_ne before [] with rfl | hcons
  · have hsingle : unwords ([] ++ [w]) = [] ++ w := by simp [unwords, joinWith]
    rw [hsingle, texts_completion isOpen_nil hw hne, words_nil]
  · have hspace := words_unwords_space hbefore
    have hne' : words (unwords before ++ [' ']) ≠ [] ∨ w ≠ [] := by rwa [hspace]
    rw [unwords_concat hcons, texts_completion (isOpen_append_space _) hw hne', hspace]

/-- A word that is offered behind an expanded line expands to itself. -/
theorem Expands.expand_offered {typed expanded : List Text} (h : t.Expands answer typed expanded)
    (htyped : ∀ w ∈ typed, IsWord w) {w : Text} (hw : IsWord w)
    (hoffered : w ∈ t.following answer expanded) :
    (t.expand (m := Id) (fun q => pure (answer q)) (typed ++ [w])).run =
      .ok (expanded ++ [w]) := by
  refine (h.concat (.exact hoffered)).expand_eq (by simp) fun v hv => ?_
  rcases List.mem_append.1 hv with hv | hv
  · exact htyped v hv
  · rwa [List.mem_singleton.1 hv]

end CommandTable

end TransponderShell
