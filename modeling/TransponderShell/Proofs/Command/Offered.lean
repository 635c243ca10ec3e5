import TransponderShell.Command.Lemmas
import TransponderShell.Command.Resolution
import TransponderShell.Proofs.Completion.PartialWord

/-!
# What a table offers

`CommandTable.offered answer t text` are the words that a table offers behind a text when questions
have the fixed answers `answer`, and `following answer t before` those behind the words `before`.

* `completion_append` says that a partial word only narrows down the candidates; by
  `texts_completion_append` the words that are offered for it are those offered for no word that
  begin with it, and `offered_unwords_append` says the same of words in a line.
* `following_eq_nil` says that nothing is offered behind a command without a completer.
-/

namespace TransponderShell

open Text

/-- A typed word that stands for a command still does when more of its name is typed. -/
theorem pick?_of_prefix {typed longer w : Text} {options : List Text}
    (h : pick? typed options = some w) (h₁ : typed <+: longer) (h₂ : longer <+: w) :
    pick? longer options = some w := by
  rw [pick?_eq_some_iff] at h ⊢
  rcases h with ⟨hm, rfl⟩ | h
  · exact Or.inl ⟨(h₁.eq_of_length_le h₂.length_le) ▸ hm, h₁.eq_of_length_le h₂.length_le⟩
  · refine Or.inr ?_
    rw [← extending_extending h₁, h]
    simpa [extending] using h₂

theorem prefix_of_pick? {typed w : Text} {options : List Text} (h : pick? typed options = some w) :
    typed <+: w := by
  rcases pick?_eq_some_iff.1 h with ⟨-, rfl⟩ | h
  · exact List.prefix_rfl
  · exact (mem_extending.1 (h ▸ List.mem_singleton_self w : w ∈ extending typed options)).2

namespace CommandTable

variable {Q H : Type}

section Monads

variable {m : Type → Type} [Monad m]

/-- Blanks in front of a text do not count. -/
theorem completion_trimStart (ask : Q → m (List Text)) (t : CommandTable Q H) (text : Text)
    (mode : CompletionMode) :
    t.completion ask text.trimStart mode = t.completion ask text mode := by
  simp only [completion, trimStart_trimStart]

/-- Behind its first word a line is completed by the command that the word stands for. -/
theorem completionAt_firstWord (ask : Q → m (List Text)) (t : CommandTable Q H) {first rest : Text}
    {b : Char} (hf : IsWord first) (hb : isBlank b = true)
    (h : words rest ≠ [] ∨ endsBlank (first ++ b :: rest) = true) :
    t.completionAt ask (first ++ b :: rest) =
      ((pick? first t.names).bind t.completerOf).elim (pure [])
        fun c => c.complete ask rest.trimStart := by
  simp only [completionAt, words_append_cons hf hb]
  match hwords : words rest, hend : endsBlank (first ++ b :: rest) with
  | [], false => simp [hwords, hend] at h
  | [], true =>
    simp only [trimStart_drop_append_cons _ hb]
    cases (pick? first t.names).bind t.completerOf <;> rfl
  | _ :: _, _ =>
    simp only [trimStart_drop_append_cons _ hb]
    cases (pick? first t.names).bind t.completerOf <;> rfl

theorem completionAt_append [LawfulMonad m] (ask : Q → m (List Text)) (t : CommandTable Q H)
    {text w : Text} (htrim : text.trimStart = text) (ho : IsOpen text) (hw : IsWord w) :
    t.completionAt ask (text ++ w) = Candidate.narrow w <$> t.completionAt ask text := by
  rcases Classical.em (text = []) with rfl | hne
  · simp [completionAt, words_of_isWord hw, hw.not_endsBlank]
  · obtain ⟨first, b, rest, hf, hb, rfl, hr⟩ := exists_firstWord htrim hne ho
    rw [completionAt_firstWord ask t hf hb (Or.inr (ho.endsBlank hne)), List.append_assoc,
      List.cons_append, completionAt_firstWord ask t hf hb (by simp [words_append_word hr hw]),
      trimStart_append_word rest hw]
    cases (pick? first t.names).bind t.completerOf with
    | none => simp
    | some c => exact c.complete_append ask hr.trimStart hw

/-- **A partial word only narrows down what is offered.** -/
theorem completion_append [LawfulMonad m] (ask : Q → m (List Text)) (t : CommandTable Q H)
    {text w : Text} (ho : IsOpen text) (hw : IsWord w) :
    t.completion ask (text ++ w) .probe = Candidate.narrow w <$> t.completion ask text .probe := by
  simp only [completion, reduceCtorEq, false_and, if_false, trimStart_append_word text hw]
  exact t.completionAt_append ask (trimStart_trimStart text) ho.trimStart hw

end Monads

variable (answer : Q → List Text) (t : CommandTable Q H)

/-- The words that are offered behind a text, when questions have fixed answers. -/
def offered (text : Text) : List Text :=
  Candidate.texts (Id.run (t.completion (fun q => pure (answer q)) text .probe))

/-- The words that are offered behind the words `before` and a blank. -/
def following (before : List Text) : List Text := t.offered answer (unwords before ++ [' '])

/-- Any command may stand at the beginning of a line. -/
@[simp] theorem following_nil : t.following answer [] = t.names := by
  have hb : isBlank ' ' = true := by decide
  have htrim : trimStart [' '] = [] := by simp [Text.trimStart, hb]
  simp [following, offered, unwords, joinWith, completion, htrim, completionAt]

theorem offered_append {text w : Text} (ho : IsOpen text) (hw : IsWord w) :
    t.offered answer (text ++ w) = extending w (t.offered answer text) := by
  rw [offered, t.completion_append _ ho hw, Id.run_map, Candidate.texts_narrow, offered]

/-- What is offered for a word in a line are the words that may stand there and extend it. -/
theorem offered_unwords_append (before : List Text) {w : Text} (hw : IsWord w) :
    t.offered answer (unwords (before ++ [w])) = extending w (t.following answer before) := by
  rw [following, ← offered_append answer t (isOpen_append_space _) hw]
  cases before with
  | nil =>
    have hb : isBlank ' ' = true := by decide
    have htrim : trimStart (' ' :: w) = trimStart w := by simp [Text.trimStart, hb]
    simp only [offered, ← completion_trimStart _ t (unwords [] ++ [' '] ++ w)]
    simp [unwords, joinWith, htrim, hw.trimStart]
  | cons c rest => rw [unwords_concat (by simp)]

/-- Nothing is offered behind a command without a completer. -/
theorem following_eq_nil {typed command : Text} (rest : List Text) (hw : IsWord typed)
    (hp : pick? typed t.names = some command) (hc : t.completerOf command = none) :
    t.following answer (command :: rest) = [] := by
  obtain ⟨tail, htail⟩ := exists_unwords_cons command rest
  obtain ⟨more, rfl⟩ := prefix_of_pick? hp
  have hne : typed ++ (more ++ ' ' :: tail) ≠ [] := by simp
  have htrim : trimStart (typed ++ (more ++ ' ' :: tail)) = typed ++ (more ++ ' ' :: tail) := by
    obtain ⟨c, cs, rfl⟩ := List.exists_cons_of_ne_nil hw.1
    simp [Text.trimStart, hw.2 c (List.mem_cons_self ..)]
  have ho : IsOpen (typed ++ (more ++ ' ' :: tail)) := by
    rw [← List.append_assoc, ← htail]
    exact isOpen_append_space _
  obtain ⟨first, b, behind, hf, hb, he, -⟩ := exists_firstWord htrim hne ho
  -- the first word of the line lies between what was typed and the name of the command
  have h₁ : typed <+: first := prefix_of_append_eq hw.2 hb he
  have h₂ : first <+: typed ++ more :=
    prefix_of_append_eq hf.2 (by decide : isBlank ' ' = true) (by rw [← he, List.append_assoc])
  have hend := ho.endsBlank hne
  rw [following, htail, offered, completion, List.append_assoc, htrim, he]
  rw [he] at hend
  simp [completionAt_firstWord _ t hf hb (Or.inr hend), pick?_of_prefix hp h₁ h₂, hc]

end CommandTable

/-- **Completing a partial word is filtering the full enumeration.** Behind a text that is empty or
ends in a blank, whether or not its words resolve, the words that are offered for a partial word are
those that are offered for no word and begin with it, in the same order and as often. The same
questions are asked for both. -/
theorem CommandTable.texts_completion_append {Q H : Type} {m : Type → Type} [Monad m]
    [LawfulMonad m] (ask : Q → m (List Text)) (t : CommandTable Q H) {text w : Text}
    (ho : IsOpen text) (hw : IsWord w) :
    Candidate.texts <$> t.completion ask (text ++ w) .probe =
      extending w <$> Candidate.texts <$> t.completion ask text .probe := by
  rw [t.completion_append ask ho hw, Functor.map_map, Functor.map_map]
  simp only [Candidate.texts_narrow]

/-- A table whose arguments lie two completers deep. -/
def layeredTable : CommandTable Unit Nat := .ofList [
  ⟨"quit", 0, none⟩,
  ⟨"show", 1, some (.nested [("oid", some (.asking ())), ("log", some (.nested
    [("level", some (.words ["debug", "info", "debug"])), ("tail", none)]))])⟩]

/-- The blanks are of several kinds, and a question that is put twice has another answer. -/
theorem texts_completion_append_layeredTable :
    let ask : Unit → StateM Nat (List Text) := fun _ asked =>
      (if asked = 0 then ["0x1", "0x2", "0x10"] else [], asked + 1)
    let offers (text : Text) : List Text × Nat :=
      ((Candidate.texts <$> layeredTable.completion ask text .probe).run 0).run
    let level : Text := "\u3000sho log\t\u00a0level\u2003 "
    let oid : Text := "show\u2028oid\n0x2 "
    (IsOpen level ∧ IsWord "d" ∧ offers (level ++ "d") = ((["debug", "debug"] : List Text), 0)) ∧
    IsOpen oid ∧ IsWord "0x1" ∧ offers (oid ++ "0x1") = ((["0x1", "0x10"] : List Text), 1) := by
  intro ask offers level oid
  have hlevel : IsOpen level := Or.inr (by decide)
  have hoid : IsOpen oid := Or.inr (by decide)
  have hd : IsWord "d" := by decide
  have hdigits : IsWord "0x1" := by decide
  refine ⟨⟨hlevel, hd, ?_⟩, hoid, hdigits, ?_⟩
  · simp only [offers]
    rw [CommandTable.texts_completion_append ask layeredTable hlevel hd]
    decide
  · simp only [offers]
    rw [CommandTable.texts_completion_append ask layeredTable hoid hdigits]
    decide

end TransponderShell
