import Mathlib.Order.Defs.Unbundled
import TransponderShell.Daemon.Basic

/-!
# What a program does to its state

A program with failures and a state leaves a state behind whether or not it succeeds. `Keeps R x`
says that this state always stands in the relation `R` to the state before. For a reflexive and
transitive relation the programs with this property are closed under sequencing (`Keeps.bind`), so
it is proved of a program by following its text. `Keeps Eq x` says that `x` only reads, and
`Keeps (Preserves P) x` that `P` is an invariant of `x`.

`Yields P x` says that what `x` returns has the property `P`, which only depends on what comes last.

The equations `run_bind`, `run_pure`, `run_throw`, `run_get` and `run_modify` run a program from a
given state, `exists_of_run_bind` takes a program apart that has returned, and `run_bind_of_reads`
skips a program that only reads.
-/

namespace TransponderShell

section Run

variable {ε σ α β : Type}

theorem run_bind (x : ExceptT ε (StateM σ) α) (f : α → ExceptT ε (StateM σ) β) (s : σ) :
    (x >>= f) s = match x s with
      | (.ok a, s') => f a s'
      | (.error e, s') => (.error e, s') := by
  show (match x s with | (r, s') => ExceptT.bindCont f r s') = _
  rcases x s with ⟨_ | _, _⟩ <;> rfl

theorem run_stateBind {x : StateM σ α} {a : α} {s s' : σ} (h : x s = (a, s'))
    (f : α → StateM σ β) : (x >>= f) s = f a s' := by
  show (match x s with | (a, s') => f a s') = _
  rw [h]

theorem run_bind_ok {x : ExceptT ε (StateM σ) α} {a : α} {s s' : σ} (h : x s = (.ok a, s'))
    (f : α → ExceptT ε (StateM σ) β) : (x >>= f) s = f a s' := by
  rw [run_bind, h]

theorem run_bind_error {x : ExceptT ε (StateM σ) α} {e : ε} {s s' : σ} (h : x s = (.error e, s'))
    (f : α → ExceptT ε (StateM σ) β) : (x >>= f) s = (.error e, s') := by
  rw [run_bind, h]

/-- A sequence that returns something has got through its first part. -/
theorem exists_of_run_bind {x : ExceptT ε (StateM σ) α} {f : α → ExceptT ε (StateM σ) β} {s : σ}
    {b : β} (h : ((x >>= f) s).1 = .ok b) : ∃ a s', x s = (.ok a, s') ∧ (f a s').1 = .ok b := by
  rcases hx : x s with ⟨e | a, s'⟩
  · rw [run_bind_error hx] at h
    cases h
  · rw [run_bind_ok hx] at h
    exact ⟨a, s', rfl, h⟩

@[simp] theorem run_pure (a : α) (s : σ) : (pure a : ExceptT ε (StateM σ) α) s = (.ok a, s) := rfl

@[simp] theorem run_throw (e : ε) (s : σ) :
    (throw e : ExceptT ε (StateM σ) α) s = (.error e, s) := rfl

@[simp] theorem run_get (s : σ) : (get : ExceptT ε (StateM σ) σ) s = (.ok s, s) := rfl

@[simp] theorem run_modify (f : σ → σ) (s : σ) :
    (modify f : ExceptT ε (StateM σ) PUnit) s = (.ok ⟨⟩, f s) := rfl

end Run

/-- A program leaves a state that is related by `R` to the state before. -/
def Keeps {ε σ α : Type} (R : σ → σ → Prop) (x : ExceptT ε (StateM σ) α) : Prop :=
  ∀ s, R s (x s).2

namespace Keeps

variable {ε σ α β : Type} {R S : σ → σ → Prop} {x : ExceptT ε (StateM σ) α}

theorem mono (h : ∀ s s', R s s' → S s s') (hx : Keeps R x) : Keeps S x :=
  fun s => h _ _ (hx s)

theorem modify {f : σ → σ} (h : ∀ s, R s (f s)) :
    Keeps R (modify f : ExceptT ε (StateM σ) PUnit) := h

variable [IsPreorder σ R]

protected theorem pure (a : α) : Keeps R (pure a : ExceptT ε (StateM σ) α) :=
  fun s => refl_of R s

protected theorem throw (e : ε) : Keeps R (throw e : ExceptT ε (StateM σ) α) :=
  fun s => refl_of R s

protected theorem get : Keeps R (get : ExceptT ε (StateM σ) σ) :=
  fun s => refl_of R s

/-- **Sequencing.** -/
protected theorem bind {f : α → ExceptT ε (StateM σ) β} (hx : Keeps R x)
    (hf : ∀ a, Keeps R (f a)) : Keeps R (x >>= f) := by
  intro s
  have hs := hx s
  rw [run_bind]
  generalize x s = r at hs ⊢
  match r with
  | (.error e, s') => exact hs
  | (.ok a, s') => exact trans_of R hs (hf a s')

end Keeps

/-- The property `P` stays if it holds. -/
def Preserves {σ : Type} (P : σ → Prop) (s s' : σ) : Prop := P s → P s'

instance {σ : Type} {P : σ → Prop} : IsPreorder σ (Preserves P) where
  refl _ h := h
  trans _ _ _ h h' hs := h' (h hs)

/-- What a program returns, if it returns anything, has the property `P`. -/
def Yields {ε σ α : Type} (P : α → Prop) (x : ExceptT ε (StateM σ) α) : Prop :=
  ∀ s a, (x s).1 = .ok a → P a

namespace Yields

variable {ε σ α β : Type} {P : β → Prop}

protected theorem pure {b : β} (h : P b) : Yields P (pure b : ExceptT ε (StateM σ) β) := by
  intro s a ha
  cases ha
  exact h

protected theorem throw (e : ε) : Yields P (throw e : ExceptT ε (StateM σ) β) := by
  intro s a ha
  cases ha

/-- Only what comes last counts. -/
protected theorem bind (x : ExceptT ε (StateM σ) α) {f : α → ExceptT ε (StateM σ) β}
    (hf : ∀ a, Yields P (f a)) : Yields P (x >>= f) := by
  intro s b hb
  obtain ⟨a, s', -, hb⟩ := exists_of_run_bind hb
  exact hf a s' b hb

end Yields

/-- A program that only reads leaves the rest to what follows it. -/
theorem run_bind_of_reads {ε σ α β : Type} {x : ExceptT ε (StateM σ) α} (hx : Keeps Eq x)
    (f : α → ExceptT ε (StateM σ) β) (s : σ) :
    (x >>= f) s = match (x s).1 with
      | .ok a => f a s
      | .error e => (.error e, s) := by
  have hs := hx s
  rw [run_bind]
  generalize x s = r at hs ⊢
  match r with
  | (.error e, s') => rw [hs]
  | (.ok a, s') => rw [hs]

/-- What follows a program that only reads begins in the same state. -/
theorem run_bind_eq_ok_of_reads {ε σ α β : Type} {x : ExceptT ε (StateM σ) α} (hx : Keeps Eq x)
    {f : α → ExceptT ε (StateM σ) β} {s : σ} {b : β} :
    ((x >>= f) s).1 = .ok b ↔ ∃ a, (x s).1 = .ok a ∧ (f a s).1 = .ok b := by
  rw [run_bind_of_reads hx]
  cases (x s).1 <;> simp

end TransponderShell
