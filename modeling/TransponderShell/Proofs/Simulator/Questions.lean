import TransponderShell.Proofs.Command.Answers
import TransponderShell.Proofs.Simulator.Runs
import TransponderShell.Shell.Question

/-!
# What the simulator answers

The simulator answers the questions of completion from its slots and changes nothing
(`ask_eq`), so a line resolves as it does with the answers of the state (`resolve_eq`). The ids that
it names are those of the live objects (`mem_answers_oids`).
-/

namespace TransponderShell.Simulator

/-- The answers in a state. -/
def answers (s : Simulator) (q : Question) : List Text := q.wordsIn (s.slots.map Slot.summary)

theorem ask_eq (q : Question) (s : Simulator) : Question.ask daemon q s = (s.answers q, s) := rfl

/-- A line resolves as it does with the answers of the state. -/
theorem resolve_eq {H : Type} (t : CommandTable Question H) (line : Text) (s : Simulator) :
    t.resolve (Question.ask daemon) line s =
      ((t.resolve (m := Id) (fun q => pure (s.answers q)) line).run, s) :=
  t.resolve_of_reads (fun q => ask_eq q s) line

/-- The shown ids are those of the live objects. -/
theorem Sound.mem_shownOids {s : Simulator} (h : s.Sound) {oid : Nat} :
    oid ∈ s.shownOids ↔ (s.object? oid).isSome := by
  rw [h.coherent.shown_perm.mem_iff]
  constructor
  · intro hoid
    obtain ⟨⟨_, object⟩, hmem, rfl⟩ := List.mem_map.1 hoid
    have hlive : (_, object.type) ∈ s.directory := List.mem_map.2 ⟨_, hmem, rfl⟩
    obtain ⟨found, hfound, -⟩ := h.exists_object hlive
    rw [hfound]
    rfl
  · intro hlive
    obtain ⟨object, hobject⟩ := Option.isSome_iff_exists.1 hlive
    obtain ⟨before, behind, hobjects, -⟩ := List.lookup_eq_some_iff.1 hobject
    rw [hobjects]
    simp

/-- The ids that are named are those of the live objects. -/
theorem Sound.mem_answers_oids {s : Simulator} (h : s.Sound) {w : Text} :
    w ∈ s.answers .oids ↔ ∃ oid, (s.object? oid).isSome ∧ w = Oid.render oid := by
  have hslot : ∀ slot ∈ s.slots, ∀ oid ∈ slot.summary.oids, 0 < slot.oid ↔ oid ≠ 0 := by
    intro slot hslot oid hoid
    rcases List.mem_cons.1 hoid with rfl | hoid
    · exact Nat.pos_iff_ne_zero
    -- an interface is an object, and there is none without a module
    obtain ⟨i, hi, rfl⟩ := List.mem_map.1 hoid
    obtain ⟨kind, hi⟩ : ∃ kind, i ∈ slot.interfaces kind := by
      rcases List.mem_append.1 hi with hi | hi
      · exact ⟨.network, hi⟩
      · exact ⟨.host, hi⟩
    refine iff_of_true (Nat.pos_iff_ne_zero.2 fun hvacant => ?_) (h.oid_ne_zero hslot kind i hi)
    rw [(h.slot slot hslot).interfaces_of_vacant hvacant kind] at hi
    cases hi
  have hshown : ∀ oid, oid ∈ ((s.slots.map Slot.summary).filter fun slot => 0 < slot.oid).flatMap
      ModuleSummary.oids ↔ oid ∈ s.shownOids := by
    intro oid
    simp only [shownOids, List.mem_flatMap, List.mem_filter, List.mem_map, decide_eq_true_eq]
    constructor
    · rintro ⟨_, ⟨⟨slot, hmem, rfl⟩, hpos⟩, hoid⟩
      exact ⟨⟨_, ⟨slot, hmem, rfl⟩, hoid⟩, (hslot slot hmem oid hoid).1 hpos⟩
    · rintro ⟨⟨_, ⟨slot, hmem, rfl⟩, hoid⟩, hne⟩
      exact ⟨_, ⟨⟨slot, hmem, rfl⟩, (hslot slot hmem oid hoid).2 hne⟩, hoid⟩
  show w ∈ List.map Oid.render _ ↔ _
  simp only [List.mem_map, hshown, h.mem_shownOids, eq_comm]

end TransponderShell.Simulator
