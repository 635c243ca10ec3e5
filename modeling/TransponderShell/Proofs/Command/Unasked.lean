import TransponderShell.Proofs.Command.Answers
import TransponderShell.Proofs.Command.Resolved
import TransponderShell.Proofs.Daemon.Effect

/-!
# Lines that are expanded without a question

The name of a command is expanded without a question, and so are the words behind a command whose
completer has slots (`expandWord_nil_related`, `expandBehind_slots_related`): there the answers to
questions do not matter. So a line that is resolved to such a command expands as it does with any
fixed answers, even if the answers change while it is expanded (`expands_of_resolve_slots`).
-/

namespace TransponderShell

open Text

/-- A text that begins with a word has it as its first word. -/
theorem Text.exists_words_unwords_cons {w : Text} (hw : IsWord w) (rest : List Text) :
    ∃ more, words (unwords (w :: rest)) = w :: more := by
  have hspace : isBlank ' ' = true := by decide
  obtain ⟨tail, htail⟩ := exists_unwords_cons w rest
  have hwords := congrArg words htail
  rw [words_append_blank hspace, words_append_blank hspace, words_nil, List.append_nil,
    words_of_isWord hw] at hwords
  exact ⟨words tail, hwords⟩

namespace CommandTable

variable {Q H : Type} {t : CommandTable Q H}

section Related

variable {m n : Type → Type} [Monad m] [Monad n] (R : ProgramRelation m n)
variable (ask : Q → m (List Text)) (ask' : Q → n (List Text))

/-- The name of a command is expanded without a question. -/
theorem expandWord_nil_related (t : CommandTable Q H) {word : Text} (hw : IsWord word) :
    R.Rel (t.expandWord ask [] word) (t.expandWord ask' [] word) := by
  have hcompletion : R.Rel (t.completion ask (unwords [word]) .probe)
      (t.completion ask' (unwords [word]) .probe) := by
    have hone : unwords [word] = word := by simp [unwords, joinWith]
    simp only [hone, completion, completionAt, hw.trimStart, words_of_isWord hw, hw.not_endsBlank,
      reduceCtorEq, false_and, if_false]
    exact R.pure_pure _
  refine R.bind_bind hcompletion fun candidates => ?_
  cases Pick.among word (Candidate.texts candidates) with
  | unknown => exact R.pure_pure _
  | word w => exact R.pure_pure _
  | ambiguous several => exact R.pure_pure _

variable {command : Text} {s : Slots} (hw : IsWord command)
variable (hc : t.completerOf command = some (.slots s))
include hc

/-- What slots offer is offered without a question. -/
theorem completion_slots_related {text : Text} {more : List Text}
    (hwords : text.words = command :: more) :
    R.Rel (t.completion ask text .probe) (t.completion ask' text .probe) := by
  have hmem : command ∈ t.names := by
    obtain ⟨found, hfound, -⟩ := Option.bind_eq_some_iff.1 hc
    exact get?_isSome.1 (hfound ▸ rfl)
  have hpick : pick? command t.names = some command := pick?_eq_some_iff.2 (Or.inl ⟨hmem, rfl⟩)
  simp only [completion, completionAt, words_trimStart, hwords, reduceCtorEq, false_and, if_false]
  split
  · exact R.pure_pure _
  · exact R.pure_pure _
  · rename_i hfirst _
    obtain ⟨rfl, -⟩ := List.cons.inj hfirst
    simp only [hpick, Option.bind_some, hc, Completer.complete]
    exact R.pure_pure _

include hw

theorem expandWord_slots_related (before : List Text) (word : Text) :
    R.Rel (t.expandWord ask (command :: before) word)
      (t.expandWord ask' (command :: before) word) := by
  have hspace : isBlank ' ' = true := by decide
  obtain ⟨more, hmore⟩ := exists_words_unwords_cons hw (before ++ [word])
  obtain ⟨rest, hrest⟩ := exists_words_unwords_cons hw before
  have hbehind : words (unwords (command :: before) ++ [' ']) = command :: rest := by
    rw [words_append_blank hspace, words_nil, List.append_nil, hrest]
  refine R.bind_bind (completion_slots_related R ask ask' hc hmore) fun candidates => ?_
  cases Pick.among word (Candidate.texts candidates) with
  | word w => exact R.pure_pure _
  | ambiguous several => exact R.pure_pure _
  | unknown =>
    dsimp only
    split
    · exact R.pure_pure _
    · refine R.bind_bind (completion_slots_related R ask ask' hc hbehind) fun expected => ?_
      split
      · exact R.pure_pure _
      · exact R.pure_pure _

/-- The words behind a command whose completer has slots are expanded without a question. -/
theorem expandBehind_slots_related (before rest : List Text) :
    R.Rel (t.expandBehind ask (command :: before) rest)
      (t.expandBehind ask' (command :: before) rest) := by
  induction rest generalizing before with
  | nil => exact R.pure_pure _
  | cons word rest ih =>
    refine R.bind_bind (expandWord_slots_related R ask ask' hw hc before word) fun expanded => ?_
    cases expanded with
    | ok w => exact ih (before ++ [w])
    | error e => exact R.pure_pure _

end Related

section States

variable {σ : Type} {ask : Q → StateM σ (List Text)} {s : σ}

/-- Words that are expanded already stay as they are. -/
theorem prefix_of_expandBehind {before rest expanded : List Text}
    (h : (t.expandBehind ask before rest s).1 = .ok expanded) : before <+: expanded := by
  induction rest generalizing before s with
  | nil =>
    cases h
    exact List.prefix_refl _
  | cons word rest ih =>
    unfold expandBehind at h
    rcases hword : t.expandWord ask before word s with ⟨e | w, s'⟩
    · rw [run_stateBind hword] at h
      cases h
    · rw [run_stateBind hword] at h
      exact (List.prefix_append ..).trans (ih h)

variable (answer : Q → List Text) {command : Text} {slots : Slots} (hw : IsWord command)
variable (hc : t.completerOf command = some (.slots slots))
include hw hc

/-- A line that expands to a command whose completer has slots expands so with any answers. -/
theorem expand_of_slots {typed arguments : List Text} (htyped : ∀ w ∈ typed, IsWord w)
    (h : (t.expand ask typed s).1 = .ok (command :: arguments)) :
    (t.expand (m := Id) (fun q => pure (answer q)) typed).run = .ok (command :: arguments) := by
  rcases typed with _ | ⟨word, rest⟩
  · cases h
  rw [expand_of_ne_nil _ t (List.cons_ne_nil word rest)] at h ⊢
  have hword : IsWord word := htyped word (List.mem_cons_self ..)
  obtain ⟨hfirst, hstate⟩ :=
    t.expandWord_nil_related (answersWhile (· = s)) ask (fun q => pure (answer q)) hword s rfl
  rcases hrun : t.expandWord ask [] word s with ⟨e | name, s'⟩
  · rw [expandBehind, run_stateBind hrun] at h
    cases h
  rw [hrun] at hfirst hstate
  obtain rfl : s' = s := hstate
  rw [expandBehind, run_stateBind hrun] at h
  have hbehind : (t.expandBehind ask [name] rest s').1 = .ok (command :: arguments) := h
  -- what stands first stays first
  obtain rfl : name = command := by
    obtain ⟨more, hmore⟩ := prefix_of_expandBehind hbehind
    exact (List.cons.inj hmore).1
  have hrest := expandBehind_slots_related (answersWhile (· = s')) ask (fun q => pure (answer q))
    hw hc [] rest s' rfl
  simp only [expandBehind, Id.run_bind, ← hfirst, List.nil_append]
  exact hrest.1.symm.trans hbehind

/-- **The answers to questions do not matter** to a line that is resolved to a command whose
completer has slots. -/
theorem expands_of_resolve_slots {line : Text} {r : Resolved H}
    (h : (t.resolve ask line s).1 = .ok r) (hr : r.command = command) :
    t.Expands answer line.words (command :: r.arguments) := by
  unfold resolve at h
  rcases hexpand : t.expand ask line.words s with ⟨e | expanded, s'⟩
  · rw [run_stateBind hexpand] at h
    cases h
  rw [run_stateBind hexpand] at h
  dsimp only at h
  cases hget : t.get? (expanded.headD []) with
  | none =>
    rw [hget] at h
    cases h
  | some found =>
    rw [hget] at h
    cases h
    have hexpanded : expanded = command :: expanded.drop 1 := by
      cases expanded with
      | nil => exact absurd hr.symm hw.1
      | cons name arguments => exact congrArg (· :: arguments) hr
    have hline : ∀ w ∈ line.words, IsWord w := fun w => mem_words
    have hrun : (t.expand ask line.words s).1 = .ok (command :: expanded.drop 1) := by
      rw [hexpand, ← hexpanded]
    exact expands_of_expand hline (expand_of_slots answer hw hc hline hrun)

end States

end CommandTable

end TransponderShell
