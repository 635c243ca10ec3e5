import TransponderShell.Command.Resolution

/-!
# Answers in two monads

Completion and resolution ask their questions in any monad. A `ProgramRelation` relates programs of
two monads and respects sequencing. When the answers to all questions are related in the two
monads, so is everything that is made of them: `Completer.complete_related`,
`CommandTable.completion_related` and `CommandTable.resolve_related`.

`answersWhile I` relates a program to its result as long as the answers do not change. Of a state
that answers only read, `CommandTable.resolve_of_reads` says that a line resolves in it as it does
with the answers of this state once and for all.
-/

namespace TransponderShell

/-- A relation between programs of two monads that respects sequencing. -/
structure ProgramRelation (m n : Type → Type) [Monad m] [Monad n] where
  Rel : {α : Type} → m α → n α → Prop
  pure_pure : ∀ {α : Type} (a : α), Rel (pure a) (pure a)
  bind_bind : ∀ {α β : Type} {x : m α} {y : n α} {f : α → m β} {g : α → n β}, Rel x y →
    (∀ a, Rel (f a) (g a)) → Rel (x >>= f) (y >>= g)

variable {Q H : Type} {m n : Type → Type} [Monad m] [Monad n] (R : ProgramRelation m n)
variable {ask : Q → m (List Text)} {ask' : Q → n (List Text)}

namespace Completer

mutual

/-- Related answers give related candidates. -/
theorem complete_related (h : ∀ q, R.Rel (ask q) (ask' q)) (c : Completer Q) (text : Text) :
    R.Rel (complete ask c text) (complete ask' c text) := by
  match c with
  | words options =>
    simp only [complete]
    exact R.pure_pure _
  | asking question =>
    simp only [complete]
    exact R.bind_bind (h question) fun _ => R.pure_pure _
  | nested options =>
    simp only [complete]
    split
    · exact completeBehind_related h options _ _
    · exact R.pure_pure _
  | slots s =>
    simp only [complete]
    exact R.pure_pure _

theorem completeBehind_related (h : ∀ q, R.Rel (ask q) (ask' q))
    (options : List (Text × Option (Completer Q))) (first text : Text) :
    R.Rel (completeBehind ask options first text) (completeBehind ask' options first text) := by
  match options with
  | [] =>
    simp only [completeBehind]
    exact R.pure_pure _
  | (name, some c) :: rest =>
    simp only [completeBehind]
    split
    · exact complete_related h c text
    · exact completeBehind_related h rest first text
  | (name, none) :: rest =>
    simp only [completeBehind]
    split
    · exact R.pure_pure _
    · exact completeBehind_related h rest first text

end

end Completer

namespace CommandTable

variable (t : CommandTable Q H)

theorem completion_related (h : ∀ q, R.Rel (ask q) (ask' q)) (text : Text)
    (mode : CompletionMode) :
    R.Rel (t.completion ask text mode) (t.completion ask' text mode) := by
  simp only [completion, completionAt]
  split
  · exact R.pure_pure _
  · split
    · exact R.pure_pure _
    · exact R.pure_pure _
    · split
      · exact Completer.complete_related R h _ _
      · exact R.pure_pure _

theorem expandWord_related (h : ∀ q, R.Rel (ask q) (ask' q)) (before : List Text) (word : Text) :
    R.Rel (t.expandWord ask before word) (t.expandWord ask' before word) := by
  unfold expandWord
  refine R.bind_bind (t.completion_related R h _ _) fun candidates => ?_
  split
  · exact R.pure_pure _
  · exact R.pure_pure _
  · exact R.pure_pure _
  · split
    · exact R.pure_pure _
    · refine R.bind_bind (t.completion_related R h _ _) fun expected => ?_
      split
      · exact R.pure_pure _
      · exact R.pure_pure _

theorem expandBehind_related (h : ∀ q, R.Rel (ask q) (ask' q)) (before rest : List Text) :
    R.Rel (t.expandBehind ask before rest) (t.expandBehind ask' before rest) := by
  induction rest generalizing before with
  | nil => exact R.pure_pure _
  | cons word rest ih =>
    unfold expandBehind
    refine R.bind_bind (t.expandWord_related R h before word) fun expanded => ?_
    split
    · exact ih _
    · exact R.pure_pure _

theorem expand_related (h : ∀ q, R.Rel (ask q) (ask' q)) (words : List Text) :
    R.Rel (t.expand ask words) (t.expand ask' words) := by
  unfold expand
  split
  · exact R.pure_pure _
  · exact t.expandBehind_related R h _ _

/-- **Related answers give related resolutions.** -/
theorem resolve_related (h : ∀ q, R.Rel (ask q) (ask' q)) (line : Text) :
    R.Rel (t.resolve ask line) (t.resolve ask' line) := by
  unfold resolve
  refine R.bind_bind (t.expand_related R h _) fun expanded => ?_
  split
  · exact R.pure_pure _
  · dsimp only
    split
    · exact R.pure_pure _
    · exact R.pure_pure _

end CommandTable

/-- In the states with the property `I`, which it keeps, a program has the result of a pure one. -/
def answersWhile {σ : Type} (I : σ → Prop) : ProgramRelation (StateM σ) Id where
  Rel x y := ∀ s, I s → (x s).1 = y.run ∧ I (x s).2
  pure_pure _ _ hs := ⟨rfl, hs⟩
  bind_bind {_ _ x y f g} hx hf s hs := by
    obtain ⟨hresult, hkept⟩ := hx s hs
    have hrest := hf (x s).1 (x s).2 hkept
    rw [hresult] at hrest
    show (f (x s).1 (x s).2).1 = _ ∧ I (f (x s).1 (x s).2).2
    rw [hresult]
    exact hrest

/-- **Answers that only read.** A line resolves as it does with fixed answers. -/
theorem CommandTable.resolve_of_reads {σ : Type} {s : σ} {ask : Q → StateM σ (List Text)}
    {answer : Q → List Text} (h : ∀ q, ask q s = (answer q, s)) (t : CommandTable Q H)
    (line : Text) :
    t.resolve ask line s = ((t.resolve (m := Id) (fun q => pure (answer q)) line).run, s) := by
  have hask : ∀ q, (answersWhile (· = s)).Rel (ask q) (pure (answer q)) := by
    rintro q _ rfl
    rw [h q]
    exact ⟨rfl, rfl⟩
  obtain ⟨hresult, hkept⟩ := t.resolve_related (answersWhile (· = s)) hask line s rfl
  exact Prod.ext hresult hkept

end TransponderShell
