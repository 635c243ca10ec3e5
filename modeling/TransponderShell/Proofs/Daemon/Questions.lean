import TransponderShell.Proofs.Command.Answers
import TransponderShell.Proofs.Daemon.Effect
import TransponderShell.Proofs.Daemon.Ids
import TransponderShell.Shell.Question

/-!
# What a daemon answers

A question is answered from the list of all slots (`Question.ask_run`). A daemon is `Steady` in the
states with a property if there it always lists the same slots, and tells names that are words. Then
it always gives the same answers (`Steady.ask`), and these are words (`Steady.isWord`).
-/

namespace TransponderShell

open Text

variable {σ : Type}

/-- The answer to a question, given the list of all slots or the reason why there is none. -/
def Question.answersTo (listed : Except DaemonError (List ModuleSummary)) (q : Question) :
    List Text :=
  match listed with
  | .ok slots => q.wordsIn slots
  | .error _ => []

/-- A question is answered from what the daemon lists. -/
theorem Question.ask_run (d : Daemon σ) (q : Question) (s : σ) :
    Question.ask d q s = (q.answersTo (d.list s).1, (d.list s).2) := by
  unfold Question.ask
  rcases hrun : d.list s with ⟨r, s'⟩
  rw [run_stateBind (show d.list.run s = (r, s') from hrun)]
  cases r <;> rfl

/-- In the states with the property `I` a daemon always lists the same slots, and keeps this
property thereby. The locations, the names of attributes and the values that are listed for them are
words. -/
structure Daemon.Steady (d : Daemon σ) (I : σ → Prop)
    (listed : Except DaemonError (List ModuleSummary)) : Prop where
  list : ∀ s, I s → (d.list s).1 = listed
  keeps : Keeps (Preserves I) d.list
  location : ∀ slots, listed = .ok slots → ∀ slot ∈ slots, IsWord slot.location
  declared : ∀ s, I s → ∀ type attributes, (d.attributes type s).1 = .ok attributes →
    ∀ a ∈ attributes, IsWord a.name ∧ ∀ v ∈ Usage.values a.usage, IsWord v

namespace Daemon.Steady

variable {d : Daemon σ} {I : σ → Prop} {listed : Except DaemonError (List ModuleSummary)}

/-- A steady daemon gives the same answers all the time. -/
theorem ask (h : d.Steady I listed) (q : Question) :
    (answersWhile I).Rel (Question.ask d q) (pure (q.answersTo listed)) := by
  intro s hs
  rw [Question.ask_run, h.list s hs]
  exact ⟨rfl, h.keeps s hs⟩

/-- The answers of a steady daemon are words. -/
theorem isWord (h : d.Steady I listed) (q : Question) : ∀ w ∈ q.answersTo listed, IsWord w := by
  intro w hw
  unfold Question.answersTo at hw
  split at hw
  · rename_i slots
    cases q with
    | locations =>
      obtain ⟨slot, hslot, rfl⟩ := List.mem_map.1 hw
      exact h.location slots rfl slot hslot
    | oids =>
      obtain ⟨oid, -, rfl⟩ := List.mem_map.1 hw
      exact Oid.isWord_render oid
    | indices kind location =>
      simp only [Question.wordsIn] at hw
      split at hw
      · obtain ⟨i, -, rfl⟩ := List.mem_map.1 hw
        exact Numeral.isWord_toDigits (by decide) (by decide) i.index
      · cases hw
  · cases hw

end Daemon.Steady

end TransponderShell
