import TransponderShell.Proofs.Command.Abbreviation
import TransponderShell.Proofs.Text.Blanks

/-!
# Help

Help resolves the line that is typed, with a blank in the place of the word that has not been begun.
Expansion goes on behind what is expanded (`expandBehind_append`), and such a blank extends to all
words that may stand there (`expandWord_space`).

* `help_of_error`, `help_of_word` and `help_of_blank` say what is shown for a line that fails, for
  the last word of a line, and for the word behind it.
* `following_eq_nil_iff` says that nothing is offered where every word is accepted, and
  `mem_following_iff` that otherwise the offered words are those that a word may expand to.

The result `CommandTable.help_tells` puts these together.
-/

namespace TransponderShell

open Text

namespace CommandTable

variable {Q H : Type} {answer : Q → List Text} {t : CommandTable Q H}

/-! ## Expansion behind a line -/

/-- Expansion goes on behind what is expanded, and it stops at the first fault. -/
theorem expandBehind_append (before xs ys : List Text) :
    (t.expandBehind (m := Id) (fun q => pure (answer q)) before (xs ++ ys)).run =
      (t.expandBehind (m := Id) (fun q => pure (answer q)) before xs).run.bind fun expanded =>
        (t.expandBehind (m := Id) (fun q => pure (answer q)) expanded ys).run := by
  induction xs generalizing before with
  | nil => rfl
  | cons word xs ih =>
    simp only [List.cons_append, expandBehind, Id.run_bind]
    cases (t.expandWord (m := Id) (fun q => pure (answer q)) before word).run with
    | ok w => exact ih _
    | error e => rfl

/-- Two spaces behind a line are one. -/
theorem texts_completion_space {expanded : List Text} (hne : expanded ≠ [])
    (hw : ∀ w ∈ expanded, IsWord w) :
    Candidate.texts (t.completion (m := Id) (fun q => pure (answer q))
      (unwords (expanded ++ [[' ']])) .probe).run = t.following answer expanded := by
  have hspace : isBlank ' ' = true := by decide
  have hwords : words (unwords expanded ++ [' '] ++ [' ']) = expanded := by
    rw [words_append_blank hspace, words_unwords_space hw, words_nil, List.append_nil]
  have hopen : IsOpen (unwords expanded ++ [' '] ++ [' ']) := isOpen_append_space _
  have hoffered : t.offered answer (unwords expanded ++ [' '] ++ [' ']) =
      t.following answer expanded := by rw [offered_of_isOpen hopen, hwords]
  rw [unwords_concat hne]
  exact hoffered

/-- **A blank in the place of a word** begins all words that may stand there. -/
theorem expandWord_space {expanded : List Text} (hne : expanded ≠ [])
    (hw : ∀ w ∈ expanded, IsWord w) (hoffered : ∀ w ∈ t.following answer expanded, IsWord w) :
    (t.expandWord (m := Id) (fun q => pure (answer q)) expanded [' ']).run =
      match t.following answer expanded with
      | [] => .ok [' ']
      | [w] => .ok w
      | several => .error (.ambiguousArgument several) := by
  have hblank : [' '] ∉ t.following answer expanded := fun hmem => by
    have hspace := (hoffered _ hmem).2 ' ' (List.mem_cons_self ..)
    exact absurd hspace (by decide)
  have hlen : expanded.length ≠ 0 := by simpa using hne
  simp only [expandWord, Id.run_bind, texts_completion_space hne hw]
  rcases hfollowing : t.following answer expanded with _ | ⟨u, _ | ⟨v, more⟩⟩
  · obtain ⟨command, arguments, rfl⟩ := List.exists_cons_of_ne_nil hne
    simp only [Pick.among]
    split
    · rfl
    · have hexpected : (t.completion (m := Id) (fun q => pure (answer q))
          (unwords (command :: arguments) ++ [' ']) .probe).run = [] :=
        List.map_eq_nil_iff.1 hfollowing
      rw [Id.run_bind, hexpected]
      rfl
  · rfl
  · rw [hfollowing] at hblank
    simp only [Pick.among, if_neg hblank, InvalidInput.ambiguous, if_neg hlen]
    rfl

/-! ## What is shown -/

/-- For a line that fails, the words that would have been valid are shown, whatever stands behind
it. -/
theorem help_of_error {text : Text} {e : InvalidInput}
    (h : (t.expand (m := Id) (fun q => pure (answer q)) text.words).run = .error e) :
    (t.help (m := Id) (fun q => pure (answer q)) text).run = joinWith ", " e.candidates := by
  have hexpand : (t.expand (m := Id) (fun q => pure (answer q))
      (if text.trimStart.endsBlank then text.words ++ [[' ']] else text.words)).run =
        .error e := by
    split
    · rename_i hend
      have hne : text.words ≠ [] := by
        intro hnil
        rw [trimStart_eq_nil hnil] at hend
        cases hend
      rw [expand_of_ne_nil _ t hne] at h
      rw [expand_of_ne_nil _ t (by simp), expandBehind_append, h]
      rfl
    · exact h
  simp only [help, Id.run_bind, hexpand]
  rfl

section Expanded

variable {text : Text} {expanded : List Text}
variable (h : (t.expand (m := Id) (fun q => pure (answer q)) text.words).run = .ok expanded)
include h

/-- A line that is expanded has a word, and so has its expansion. -/
theorem ne_nil_of_expand : text.words ≠ [] ∧ expanded ≠ [] := by
  have hne : text.words ≠ [] := by
    intro hnil
    rw [hnil] at h
    cases h
  refine ⟨hne, ?_⟩
  have hlen := (expands_of_expand (fun w => mem_words) h).1
  rw [← List.length_pos_iff] at hne ⊢
  omega

/-- What the last word of a line stands for is shown. -/
theorem help_of_word (ht : t.Blankless answer) (hend : text.endsBlank = false) :
    expanded.getLast? = some (t.help (m := Id) (fun q => pure (answer q)) text).run := by
  obtain ⟨hwords, hne⟩ := ne_nil_of_expand h
  have hexpands := expands_of_expand (fun w => mem_words) h
  have hlast : IsWord (expanded.getLast hne) :=
    hexpands.isWord ht (fun w => mem_words) _ (List.getLast_mem hne)
  have hhelp : (t.help (m := Id) (fun q => pure (answer q)) text).run =
      trim (expanded.getLastD []) := by
    simp only [help, endsBlank_trimStart hwords, hend, Bool.false_eq_true, if_false, Id.run_bind, h]
    rfl
  rw [hhelp, List.getLastD_eq_getLast?, List.getLast?_eq_some_getLast hne, Option.getD_some,
    hlast.trim]

/-- The words that may stand behind a line are shown. -/
theorem help_of_blank (ht : t.Each answer IsWord) (hend : text.endsBlank = true) :
    (t.help (m := Id) (fun q => pure (answer q)) text).run =
      joinWith ", " (t.following answer expanded) := by
  obtain ⟨hwords, hne⟩ := ne_nil_of_expand h
  have hexpands := expands_of_expand (fun w => mem_words) h
  have hw := hexpands.isWord ht.blankless fun w => mem_words
  have hoffered := ht.following hw
  have hbehind : (t.expand (m := Id) (fun q => pure (answer q)) (text.words ++ [[' ']])).run =
      (t.expandBehind (m := Id) (fun q => pure (answer q)) expanded [[' ']]).run := by
    rw [expand_of_ne_nil _ t hwords] at h
    rw [expand_of_ne_nil _ t (by simp), expandBehind_append, h]
    rfl
  simp only [help, endsBlank_trimStart hwords, hend, if_true, Id.run_bind, hbehind, expandBehind,
    expandWord_space hne hw hoffered]
  rcases hfollowing : t.following answer expanded with _ | ⟨u, _ | ⟨v, more⟩⟩
  · show trim ((expanded ++ [[' ']]).getLastD []) = _
    rw [List.getLastD_concat]
    rfl
  · show trim ((expanded ++ [u]).getLastD []) = _
    have hu : IsWord u := hoffered u (hfollowing ▸ List.mem_singleton_self u)
    rw [List.getLastD_concat, hu.trim]
    simp [joinWith]
  · rfl

/-! ## The next word -/

/-- A word behind a line that expands is what it stands for behind the expansion. -/
theorem expand_concat_iff {x w : Text} (hx : IsWord x) :
    (t.expand (m := Id) (fun q => pure (answer q)) (text.words ++ [x])).run =
        .ok (expanded ++ [w]) ↔
      StandsFor expanded.length (t.following answer expanded) x w := by
  have hexpands := expands_of_expand (fun w => mem_words) h
  have hwords : ∀ v ∈ text.words ++ [x], IsWord v := by
    intro v hv
    rcases List.mem_append.1 hv with hv | hv
    · exact mem_words hv
    · rwa [List.mem_singleton.1 hv]
  constructor
  · intro hline
    have hlast := (expands_of_expand hwords hline).2 expanded.length x w
      (by rw [hexpands.1, List.getElem?_concat_length]) List.getElem?_concat_length
    rwa [List.take_left] at hlast
  · exact fun hx => (hexpands.concat hx).expand_eq (by simp) hwords

/-- **Nothing is offered exactly where every word is accepted as it is.** -/
theorem following_eq_nil_iff (ht : t.Each answer IsWord) :
    t.following answer expanded = [] ↔ ∀ x, IsWord x →
      (t.expand (m := Id) (fun q => pure (answer q)) (text.words ++ [x])).run =
        .ok (expanded ++ [x]) := by
  obtain ⟨-, hne⟩ := ne_nil_of_expand h
  have hexpands := expands_of_expand (fun w => mem_words) h
  have hoffered := ht.following (hexpands.isWord ht.blankless fun w => mem_words)
  constructor
  · intro hnil x hx
    exact (expand_concat_iff h hx).2 (.free (List.length_pos_iff.2 hne) hnil)
  · -- a word that is longer than all that are offered is not accepted where some are
    intro hall
    let long : Text := (t.following answer expanded).flatten ++ ['x']
    have hlong : IsWord long := by
      refine ⟨by simp [long], fun c hc => ?_⟩
      rcases List.mem_append.1 hc with hc | hc
      · obtain ⟨w, hw, hc⟩ := List.mem_flatten.1 hc
        exact (hoffered w hw).2 c hc
      · rw [List.mem_singleton.1 hc]
        decide
    have hnot : long ∉ t.following answer expanded := by
      intro hmem
      have hle := (List.sublist_flatten_of_mem hmem).length_le
      simp only [long, List.length_append, List.length_singleton] at hle
      omega
    cases (expand_concat_iff h hlong).1 (hall long hlong) with
    | free hp hv => exact hv
    | exact hmem => exact absurd hmem hnot
    | only honly => exact absurd (mem_extending.1 (honly ▸ List.mem_singleton_self long)).1 hnot

/-- **Where words are offered**, they are what a typed word may expand to. -/
theorem mem_following_iff (ht : t.Each answer IsWord) (hsome : t.following answer expanded ≠ [])
    (w : Text) : w ∈ t.following answer expanded ↔ ∃ x, IsWord x ∧
      (t.expand (m := Id) (fun q => pure (answer q)) (text.words ++ [x])).run =
        .ok (expanded ++ [w]) := by
  have hexpands := expands_of_expand (fun w => mem_words) h
  have hoffered := ht.following (hexpands.isWord ht.blankless fun w => mem_words)
  constructor
  · intro hw
    exact ⟨w, hoffered w hw, (expand_concat_iff h (hoffered w hw)).2 (.exact hw)⟩
  · rintro ⟨x, hx, hline⟩
    cases (expand_concat_iff h hx).1 hline with
    | free hp hv => exact absurd hv hsome
    | exact hmem => exact hmem
    | only honly => exact (mem_extending.1 (honly ▸ List.mem_singleton_self w)).1

end Expanded

end CommandTable

/-- **Help tells what resolution would do.** Of a table of words, help shows

* the words that would have been valid, for a line that fails,
* what the last word stands for, for a line that expands and ends in a word, and
* the words that the table offers next, for a line that expands and ends in a blank. These are what
  a next word may expand to, and each expands to itself. They are none, and nothing is shown, exactly
  where every next word is accepted as it is.

For a text without words it shows all commands. -/
theorem CommandTable.help_tells {Q H : Type} (answer : Q → List Text) (t : CommandTable Q H)
    (ht : t.Each answer IsWord) (text : Text) :
    let ask : Q → Id (List Text) := fun q => pure (answer q)
    let shown := (t.help ask text).run
    (∀ e, (t.expand ask text.words).run = .error e → shown = joinWith ", " e.candidates) ∧
    (∀ expanded, (t.expand ask text.words).run = .ok expanded →
      (text.endsBlank = false → expanded.getLast? = some shown) ∧
      (text.endsBlank = true →
        let next := Candidate.texts (t.completion ask (unwords expanded ++ [' ']) .probe).run
        shown = joinWith ", " next ∧
        (next = [] ↔ ∀ x, IsWord x →
          (t.expand ask (text.words ++ [x])).run = .ok (expanded ++ [x])) ∧
        (next = [] → shown = []) ∧
        (next ≠ [] → ∀ w, w ∈ next ↔ ∃ x, IsWord x ∧
          (t.expand ask (text.words ++ [x])).run = .ok (expanded ++ [w])) ∧
        ∀ w ∈ next, (t.expand ask (text.words ++ [w])).run = .ok (expanded ++ [w]))) ∧
    (text.words = [] → shown = joinWith ", " t.names) := by
  intro ask shown
  refine ⟨fun e h => help_of_error h, fun expanded h => ⟨?_, ?_⟩, fun hnil => ?_⟩
  · exact help_of_word h ht.blankless
  · intro hend next
    have hnext : next = t.following answer expanded := rfl
    have hshown : shown = joinWith ", " next := help_of_blank h ht hend
    have hexpands := expands_of_expand (fun w => mem_words) h
    have hoffered := ht.following (hexpands.isWord ht.blankless fun w => mem_words)
    refine ⟨hshown, following_eq_nil_iff h ht, fun hnil => ?_, mem_following_iff h ht,
      fun w hw => ?_⟩
    · rw [hshown, hnil]
      rfl
    · exact (expand_concat_iff h (hoffered w hw)).2 (.exact hw)
  · have hempty : (t.expand ask text.words).run = .error (.unknownCommand t.names) := by
      rw [hnil]
      rfl
    exact help_of_error hempty

theorem help_tells_sampleTable :
    let answer : Unit → List Text := fun _ => ["location:1", "location:2"]
    let ask : Unit → Id (List Text) := fun q => pure (answer q)
    let expanded : List Text := ["set", "fec-type"]
    let next : List Text := ["rs", "fc", "none"]
    sampleTable.Each answer IsWord ∧
      (sampleTable.expand ask ["set", "oper"]).run = .error (.unknownArgument ["fec-type"]) ∧
      (sampleTable.help ask "set oper ").run = "fec-type" ∧
      (sampleTable.expand ask ["se", "fec"]).run = .ok expanded ∧
      expanded.getLast? = some (sampleTable.help ask "se fec").run ∧
      (sampleTable.help ask "se  fec ").run = "rs, fc, none" ∧
      ∀ w, w ∈ next ↔ ∃ x, IsWord x ∧
        (sampleTable.expand ask ["se", "fec", x]).run = .ok ["set", "fec-type", w] := by
  intro answer ask expanded next
  have hfails : (sampleTable.expand ask ["set", "oper"]).run =
      .error (.unknownArgument ["fec-type"]) := by decide
  have hexpand : (sampleTable.expand ask ["se", "fec"]).run = .ok expanded := by decide
  have hnext : Candidate.texts
      (sampleTable.completion ask (unwords expanded ++ [' ']) .probe).run = next := by decide
  obtain ⟨hfault, -⟩ := CommandTable.help_tells answer sampleTable each_sampleTable "set oper "
  obtain ⟨-, hword, -⟩ := CommandTable.help_tells answer sampleTable each_sampleTable "se fec"
  obtain ⟨-, hblank, -⟩ := CommandTable.help_tells answer sampleTable each_sampleTable "se  fec "
  obtain ⟨hshown, -, -, hoffered, -⟩ := (hblank expanded hexpand).2 (by decide)
  rw [hnext] at hshown hoffered
  refine ⟨each_sampleTable, hfails, ?_, hexpand, (hword expanded hexpand).1 (by decide), ?_, ?_⟩
  · exact hfault _ hfails
  · exact hshown
  · exact hoffered (by decide)

end TransponderShell
