import TransponderShell.Proofs.Simulator.Refusals
import TransponderShell.Proofs.Simulator.Runs

/-!
# Requests are atomic

`Daemon.Denies d c e s s'` says that the daemon `d` refuses the call `c` for the reason `e`, and
that this leads from the state `s` to the state `s'`. A transactional daemon refuses nothing with
an effect (`Daemon.Transactional.eq_of_denies`).

The simulator is transactional as long as it is sound, and after every run it is. The result is
`atomic_of_reaches`, which also says where a module that is being made has got past its last
failure: as soon as its object has been made.
-/

namespace TransponderShell

namespace Daemon

variable {σ : Type} {d : Daemon σ}

/-- The states before and after a call that is refused, and the reason. Who follows an attribute is
left open. -/
inductive Denies (d : Daemon σ) : Call → DaemonError → σ → σ → Prop
  | list {e : DaemonError} {s s' : σ} (h : d.list s = (.error e, s')) : Denies d .list e s s'
  | attributes {type : ObjectType} {e : DaemonError} {s s' : σ}
    (h : d.attributes type s = (.error e, s')) : Denies d (.attributes type) e s s'
  | get {object : ObjectHandle} {name : Text} {json : Bool} {e : DaemonError} {s s' : σ}
    (h : d.get object name json s = (.error e, s')) : Denies d (.get object name json) e s s'
  | set {object : ObjectHandle} {name value : Text} {e : DaemonError} {s s' : σ}
    (h : d.set object name value s = (.error e, s')) : Denies d (.set object name value) e s s'
  | capability {object : ObjectHandle} {name : Text} {e : DaemonError} {s s' : σ}
    (h : d.capability object name s = (.error e, s')) : Denies d (.capability object name) e s s'
  | create {type : ObjectType} {pairs : List (Text × Text)} {moduleOid : Nat} {e : DaemonError}
    {s s' : σ} (h : d.create type pairs moduleOid s = (.error e, s')) :
    Denies d (.create type pairs moduleOid) e s s'
  | remove {oid : Nat} {e : DaemonError} {s s' : σ} (h : d.remove oid s = (.error e, s')) :
    Denies d (.remove oid) e s s'
  | monitor {object : ObjectHandle} {name : Text} {json : Bool} {γ : Type} {r : Receiver γ}
    {g g' : γ} {e : DaemonError} {s s' : σ}
    (h : (d.monitor object name json s).run r g = (.error e, s', g')) :
    Denies d (.monitor object name json) e s s'
  | setLogLevel {level : LogLevel} {scope : ApiScope} {e : DaemonError} {s s' : σ}
    (h : d.setLogLevel level scope s = (.error e, s')) : Denies d (.setLogLevel level scope) e s s'

/-- A transactional daemon refuses without an effect. -/
theorem Transactional.eq_of_denies {I : σ → Prop} (h : d.Transactional I) {c : Call}
    {e : DaemonError} {s s' : σ} (hs : I s) (hdenies : d.Denies c e s s') : s' = s := by
  cases hdenies with
  | list hrun =>
    have hkept := h.list s
    rw [hrun] at hkept
    exact hkept.symm
  | @attributes type _ _ _ hrun =>
    have hkept := h.attributes type s
    rw [hrun] at hkept
    exact hkept.symm
  | get hrun => exact h.get _ _ _ s e s' hrun hs
  | set hrun => exact h.set _ _ _ s e s' hrun hs
  | capability hrun => exact h.capability _ _ s e s' hrun hs
  | create hrun => exact h.create _ _ _ s e s' hrun hs
  | remove hrun => exact h.remove _ s e s' hrun hs
  | monitor hrun => exact (h.monitor _ _ _ _ s _ e s' _ hrun hs).1
  | setLogLevel hrun => exact h.setLogLevel _ _ s e s' hrun hs

end Daemon

namespace Simulator

/-- **Requests are atomic** after every run: what is refused, whatever its arguments are, leaves the
simulator as it was. In particular, once the object of a module has been made in a slot without one,
nothing that is left to do for the module fails. -/
theorem atomic_of_reaches {s₀ s : Simulator} (h₀ : Initial s₀) (h : Reaches s₀ s) :
    (∀ c e s', daemon.Denies c e s s' → s' = s) ∧
      ∀ slot ∈ s.slots, slot.oid = 0 → ∀ pairs oid s₁,
        spawn .module (pairs.filter fun pair => pair.1 ≠ locationName) s = (.ok oid, s₁) →
        ∃ s₂, furnish slot oid s₁ = (.ok oid, s₂) ∧
          createModule slot pairs s = (.ok oid, s₂) := by
  have hsound : s.Sound := (h.evolves h₀.sound).1
  refine ⟨fun c e s' hdenies => transactional.eq_of_denies hsound hdenies, ?_⟩
  intro slot hslot hvacant pairs oid s₁ hspawn
  obtain ⟨before, behind, hslots⟩ := List.append_of_mem hslot
  obtain ⟨rfl, hslots₁⟩ : oid = s.nextOid ∧ s₁.slots = s.slots := by
    rcases spawn_cases .module (pairs.filter fun pair => pair.1 ≠ locationName) s with
      ⟨e, he⟩ | ⟨s₂, hok, hslots₂, -⟩
    · rw [he] at hspawn
      cases hspawn
    · rw [hok] at hspawn
      cases hspawn
      exact ⟨rfl, hslots₂⟩
  obtain ⟨s₂, hfurnish⟩ :=
    furnish_of_spawned hsound hslots (hsound.location_ne hslots) hvacant hslots₁
  refine ⟨s₂, hfurnish, ?_⟩
  rw [createModule_eq]
  exact (run_bind_ok hspawn _).trans hfurnish

theorem atomic_of_reaches_seed :
    (∃ e s', daemon.Denies (.create .module [(locationName, "1")] 0) e seed s' ∧ s' = seed) ∧
      ∃ s₁ s₂, spawn .module [] seed = (.ok 5, s₁) ∧
        furnish ⟨"2", true, 1, 2, 0, [], []⟩ 5 s₁ = (.ok 5, s₂) := by
  obtain ⟨hunchanged, hfurnish⟩ := atomic_of_reaches .seed .refl
  constructor
  · obtain ⟨e, s', hrun⟩ : ∃ e s', create .module [(locationName, "1")] 0 seed = (.error e, s') :=
      ⟨_, _, rfl⟩
    have hdenies : daemon.Denies (.create .module [(locationName, "1")] 0) e seed s' := .create hrun
    exact ⟨e, s', hdenies, hunchanged _ e s' hdenies⟩
  · have hslot : (⟨"2", true, 1, 2, 0, [], []⟩ : Slot) ∈ seed.slots := by decide +kernel
    obtain ⟨s₁, hspawn, -⟩ := spawn_nil .module seed
    obtain ⟨s₂, hrun, -⟩ := hfurnish _ hslot rfl [] _ s₁ hspawn
    exact ⟨s₁, s₂, hspawn, hrun⟩

end Simulator

end TransponderShell
