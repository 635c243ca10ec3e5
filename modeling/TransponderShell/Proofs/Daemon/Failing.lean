import TransponderShell.Proofs.Daemon.Questions

/-!
# Requests that fail

`FailsWith Q x` says that whenever the program `x` fails, its failure and the states before and
after it are related by `Q`. A failure late in a program cannot undo what has happened before it, so
a sequence has this property if its first part only reads (`FailsWith.bind_of_reads`) or if nothing
fails any more after it (`FailsWith.bind_succeeds`).

A daemon is `Transactional` in the states with a property if there a refused request leaves it as it
was, and so does a feed that fails, which delivers nothing either.
-/

namespace TransponderShell

section Programs

variable {ε σ α β : Type} {Q : ε → σ → σ → Prop} {x : ExceptT ε (StateM σ) α}
  {f : α → ExceptT ε (StateM σ) β}

/-- When a program fails, its failure and the states before and after it are related by `Q`. -/
def FailsWith (Q : ε → σ → σ → Prop) (x : ExceptT ε (StateM σ) α) : Prop :=
  ∀ s e s', x s = (.error e, s') → Q e s s'

/-- A program that never fails. -/
def Succeeds (x : ExceptT ε (StateM σ) α) : Prop := ∀ s, ∃ a s', x s = (.ok a, s')

namespace Succeeds

protected theorem pure (a : α) : Succeeds (pure a : ExceptT ε (StateM σ) α) := fun s => ⟨a, s, rfl⟩

protected theorem bind (hx : Succeeds x) (hf : ∀ a, Succeeds (f a)) : Succeeds (x >>= f) := by
  intro s
  obtain ⟨a, s₁, hrun⟩ := hx s
  rw [run_bind_ok hrun]
  exact hf a s₁

end Succeeds

namespace FailsWith

theorem of_succeeds (h : Succeeds x) : FailsWith Q x := by
  intro s e s' hrun
  obtain ⟨a, s₁, hok⟩ := h s
  rw [hok] at hrun
  cases hrun

protected theorem pure (a : α) : FailsWith Q (pure a : ExceptT ε (StateM σ) α) :=
  of_succeeds (Succeeds.pure a)

protected theorem throw {e : ε} (h : ∀ s, Q e s s) :
    FailsWith Q (throw e : ExceptT ε (StateM σ) α) := by
  intro s e' s' hrun
  cases hrun
  exact h s

/-- A reading program fails with the state unchanged. -/
theorem of_reads (hx : Keeps Eq x) (h : ∀ s e, (x s).1 = .error e → Q e s s) : FailsWith Q x := by
  intro s e s' hrun
  have hkept := hx s
  rw [hrun] at hkept
  obtain rfl : s = s' := hkept
  exact h s e (by rw [hrun])

/-- **A program whose last failure is early.** Nothing fails behind `x`. -/
theorem bind_succeeds (hx : FailsWith Q x) (hf : ∀ a, Succeeds (f a)) : FailsWith Q (x >>= f) := by
  intro s e s' hrun
  rcases hfirst : x s with ⟨e₁ | a, s₁⟩
  · rw [run_bind_error hfirst] at hrun
    cases hrun
    exact hx s e s' hfirst
  · obtain ⟨b, s₂, hok⟩ := hf a s₁
    rw [run_bind_ok hfirst, hok] at hrun
    cases hrun

/-- **A program that begins with reading.** Nothing has changed when `f` begins. -/
theorem bind_of_reads (hx : FailsWith Q x) (hreads : Keeps Eq x) (hf : ∀ a, FailsWith Q (f a)) :
    FailsWith Q (x >>= f) := by
  intro s e s' hrun
  have hkept := hreads s
  rcases hfirst : x s with ⟨e₁ | a, s₁⟩
  · rw [run_bind_error hfirst] at hrun
    cases hrun
    exact hx s e s' hfirst
  · rw [hfirst] at hkept
    obtain rfl : s = s₁ := hkept
    rw [run_bind_ok hfirst] at hrun
    exact hf a s e s' hrun

end FailsWith

end Programs

/-! ## Transactional daemons -/

variable {σ : Type}

/-- A refused request leaves a state with the property `I` as it was. -/
def Unchanged (I : σ → Prop) (_ : DaemonError) (s s' : σ) : Prop := I s → s' = s

/-- A request is granted, or it leaves the state as it was. -/
theorem FailsWith.of_cases {I : σ → Prop} {α : Type} {x : Request σ α}
    (h : ∀ s, I s → (∃ e, x s = (.error e, s)) ∨ ∃ a s', x s = (.ok a, s')) :
    FailsWith (Unchanged I) x := by
  intro s e s' hrun hs
  rcases h s hs with ⟨e₁, he⟩ | ⟨a, s₁, hok⟩
  · rw [he] at hrun
    cases hrun
    rfl
  · rw [hok] at hrun
    cases hrun

/-- In the states with the property `I` a request that is refused changes nothing. -/
structure Daemon.Transactional (d : Daemon σ) (I : σ → Prop) : Prop where
  list : Keeps Eq d.list
  attributes : ∀ type, Keeps Eq (d.attributes type)
  get : ∀ object name json, FailsWith (Unchanged I) (d.get object name json)
  set : ∀ object name value, FailsWith (Unchanged I) (d.set object name value)
  capability : ∀ object name, FailsWith (Unchanged I) (d.capability object name)
  create : ∀ type pairs oid, FailsWith (Unchanged I) (d.create type pairs oid)
  remove : ∀ oid, FailsWith (Unchanged I) (d.remove oid)
  setLogLevel : ∀ level scope, FailsWith (Unchanged I) (d.setLogLevel level scope)
  /-- A feed that fails has delivered nothing. -/
  monitor : ∀ {γ : Type} (r : Receiver γ) object name json s g e s' g',
    (d.monitor object name json s).run r g = (.error e, s', g') → I s → s' = s ∧ g' = g

namespace Daemon.Transactional

variable {d : Daemon σ} {I : σ → Prop}

/-- Resolving a line only reads. -/
theorem resolve_snd (h : d.Transactional I) {H : Type} (t : CommandTable Question H) (line : Text)
    (s : σ) : (t.resolve (Question.ask d) line s).2 = s := by
  have hask (q : Question) : Question.ask d q s = (q.answersTo (d.list s).1, s) := by
    rw [Question.ask_run, ← h.list s]
  rw [t.resolve_of_reads hask line]

end Daemon.Transactional

end TransponderShell
