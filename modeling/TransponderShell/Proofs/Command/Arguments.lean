import TransponderShell.Proofs.Command.Offered
import TransponderShell.Proofs.Completion.Arguments

/-!
# What a table offers behind words

Behind words a table offers what the completer of the command offers that the first word stands for
(`following_cons`). So what it offers at the end of a text depends on the words of the text only
(`offered_of_isOpen`): the words may stand at any distance and behind any blanks.

`CommandTable.Each P answer t` says that the names of a table and the words in its completers have
the property `P`, and `Each.following` that every word that is offered has it.
-/

namespace TransponderShell.CommandTable

open Text

variable {Q H : Type} {answer : Q → List Text} {t : CommandTable Q H}

/-- At the end of a text the command is decided by the first word, and what is offered by the words
behind it. -/
theorem offered_cons {text : Text} (ho : IsOpen text) {command : Text} {arguments : List Text}
    (hwords : text.words = command :: arguments) :
    t.offered answer text = ((pick? command t.names).bind t.completerOf).elim []
      fun c => c.offers answer arguments := by
  rcases ho.blank_or_firstWord with ⟨-, hnil⟩ | ⟨first, b, rest, hf, hb, he, hcons, hrest⟩
  · rw [hnil] at hwords
    cases hwords
  rw [hcons] at hwords
  obtain ⟨rfl, rfl⟩ := List.cons.inj hwords
  have hend := ho.trimStart.endsBlank (by simp [he])
  rw [he] at hend
  rw [offered, completion, if_neg (by simp), he, completionAt_firstWord _ t hf hb (Or.inr hend)]
  cases (pick? first t.names).bind t.completerOf with
  | none => rfl
  | some c => rw [← words_trimStart rest]; exact c.texts_complete answer hrest.trimStart

theorem words_unwords_space {before : List Text} (h : ∀ w ∈ before, IsWord w) :
    words (unwords before ++ [' ']) = before := by
  have hspace : isBlank ' ' = true := by decide
  rw [words_append_blank hspace, words_unwords h, words_nil, List.append_nil]

/-- **What is offered behind words** is what the completer of their command offers behind the
arguments. -/
theorem following_cons {command : Text} {arguments : List Text}
    (h : ∀ w ∈ command :: arguments, IsWord w) :
    t.following answer (command :: arguments) =
      ((pick? command t.names).bind t.completerOf).elim [] fun c => c.offers answer arguments :=
  offered_cons (isOpen_append_space _) (words_unwords_space h)

/-- Behind the name of a command its completer decides. -/
theorem following_command {command : Text} {arguments : List Text} {c : Completer Q}
    (hc : t.completerOf command = some c) (h : ∀ w ∈ command :: arguments, IsWord w) :
    t.following answer (command :: arguments) = c.offers answer arguments := by
  have hmem : command ∈ t.names := by
    obtain ⟨found, hfound, -⟩ := Option.bind_eq_some_iff.1 hc
    exact get?_isSome.1 (hfound ▸ rfl)
  have hpick : pick? command t.names = some command := pick?_eq_some_iff.2 (Or.inl ⟨hmem, rfl⟩)
  rw [following_cons h, hpick, Option.bind_some, hc, Option.elim_some]

/-- **Blanks do not matter.** At the end of a text that a new word begins behind, what is offered is
what may stand behind its words. -/
theorem offered_of_isOpen {text : Text} (ho : IsOpen text) :
    t.offered answer text = t.following answer text.words := by
  cases hwords : text.words with
  | cons command arguments =>
    have hall : ∀ w ∈ command :: arguments, IsWord w := by
      intro w hw
      rw [← hwords] at hw
      exact mem_words hw
    rw [offered_cons ho hwords, following_cons hall]
  | nil =>
    rcases ho.blank_or_firstWord with ⟨hblank, -⟩ | ⟨first, b, rest, -, -, -, hcons, -⟩
    · rw [following_nil, offered, completion, if_neg (by simp), hblank]
      simp [completionAt]
    · rw [hwords] at hcons
      cases hcons

/-! ## The words in a table -/

/-- Every name in a table and every word in its completers has the property `P`. -/
def Each (answer : Q → List Text) (P : Text → Prop) (t : CommandTable Q H) : Prop :=
  ∀ command ∈ t.commands, P command.name ∧ ∀ c ∈ command.completer, c.Each answer P

/-- A table has the words of the commands that it is made of. -/
theorem Each.ofList {P : Text → Prop} {commands : List (Command Q H)}
    (h : ∀ command ∈ commands, P command.name ∧ ∀ c ∈ command.completer, c.Each answer P) :
    (CommandTable.ofList commands).Each answer P := by
  suffices ∀ t : CommandTable Q H, t.Each answer P →
      (commands.foldl insert t).Each answer P from this _ fun _ hmem => by cases hmem
  induction commands with
  | nil => exact fun t ht => ht
  | cons c rest ih =>
    refine fun t ht => ih (fun d hd => h d (List.mem_cons_of_mem _ hd)) _ fun d hd => ?_
    rcases mem_insertCommand hd with rfl | hd
    · exact h d (List.mem_cons_self ..)
    · exact ht d hd

/-- **What is offered are words in the table.** -/
theorem Each.following {P : Text → Prop} (h : t.Each answer P) {before : List Text}
    (hbefore : ∀ w ∈ before, IsWord w) : ∀ w ∈ t.following answer before, P w := by
  intro w hw
  cases before with
  | nil =>
    rw [following_nil] at hw
    obtain ⟨command, hcommand, rfl⟩ := List.mem_map.1 hw
    exact (h command hcommand).1
  | cons name arguments =>
    rw [following_cons hbefore] at hw
    cases hc : (pick? name t.names).bind t.completerOf with
    | none =>
      rw [hc] at hw
      cases hw
    | some c =>
      rw [hc] at hw
      obtain ⟨found, -, hcompleter⟩ := Option.bind_eq_some_iff.1 hc
      obtain ⟨command, hcommand, hof⟩ := Option.bind_eq_some_iff.1 hcompleter
      exact ((h command (List.mem_of_find?_eq_some hcommand)).2 c hof).offers arguments w hw

end TransponderShell.CommandTable
