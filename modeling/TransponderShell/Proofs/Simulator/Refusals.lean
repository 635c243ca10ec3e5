import TransponderShell.Proofs.Daemon.Failing
import TransponderShell.Proofs.Simulator.Furnishing

/-!
# What the simulator refuses

The simulator is transactional as long as it is sound (`Simulator.transactional`). For most requests
this is seen from their text: they check everything before they change anything. A module however is
made in several steps, and its interfaces come last. These steps do not fail: a slot without a
module has no interfaces, and the new id is in no other slot (`furnish_of_spawned`).
-/

namespace TransponderShell.Simulator

/-! ## Refused requests -/

/-- The next id is in no slot. -/
theorem Sound.oid_ne_next {s : Simulator} (h : s.Sound) {slot : Slot} (hslot : slot ∈ s.slots) :
    slot.oid ≠ s.nextOid := by
  rcases eq_or_ne slot.oid 0 with hvacant | hoid
  · exact hvacant ▸ Nat.ne_of_lt h.next_pos
  · exact Nat.ne_of_lt (h.lt_next _ (h.mem_directory hslot (Slot.mem_listing_module hoid)))

/-- **A module that has been made gets its interfaces.** What is left to do for it cannot fail. -/
theorem furnish_of_spawned {s s₁ : Simulator} (h : s.Sound) {before behind : List Slot}
    {slot : Slot} (hslots : s.slots = before ++ slot :: behind)
    (hbefore : ∀ b ∈ before, b.location ≠ slot.location) (hoid : slot.oid = 0)
    (hslots₁ : s₁.slots = s.slots) :
    ∃ s₂, furnish slot s.nextOid s₁ = (.ok s.nextOid, s₂) := by
  have hfresh : ∀ b ∈ before, b.oid ≠ s.nextOid := by
    intro b hb
    exact h.oid_ne_next (by simp [hslots, hb])
  have hvacant := (h.slot slot (by simp [hslots])).interfaces_of_vacant hoid
  have hnext := Nat.ne_of_gt h.next_pos
  obtain ⟨s₂, hrun, -⟩ := furnish_of_vacant (hslots₁.trans hslots) hbefore hfresh hnext hvacant
  exact ⟨s₂, hrun⟩

/-- **Making a module is all or nothing.** It fails over its values or not at all. -/
theorem createModule_fails {s : Simulator} (h : s.Sound) {before behind : List Slot} {slot : Slot}
    (hslots : s.slots = before ++ slot :: behind)
    (hbefore : ∀ b ∈ before, b.location ≠ slot.location) (hoid : slot.oid = 0)
    {pairs : List (Text × Text)} {e : DaemonError} {s' : Simulator}
    (hrun : createModule slot pairs s = (.error e, s')) : s' = s := by
  rw [createModule_eq] at hrun
  generalize pairs.filter _ = own at hrun
  rcases spawn_cases .module own s with ⟨e, he⟩ | ⟨s₁, hspawn, hslots₁, -⟩
  · rw [run_bind_error he] at hrun
    cases hrun
    rfl
  · obtain ⟨s₂, hfurnish⟩ := furnish_of_spawned h hslots hbefore hoid hslots₁
    rw [run_bind_ok hspawn, hfurnish] at hrun
    cases hrun

theorem create_fails (type : ObjectType) (pairs : List (Text × Text)) (oid : Nat) :
    FailsWith (Unchanged Sound) (create type pairs oid) := by
  cases type with
  | interface kind =>
    unfold create
    dsimp only
    split
    · exact .throw fun _ _ => rfl
    · refine .of_cases fun s _ => (attachInterface_cases kind oid _ pairs s).imp_right ?_
      rintro ⟨_, _, _, s', hok, -⟩
      exact ⟨_, s', hok⟩
  | module =>
    intro s e s' hrun h
    rcases create_module_cases pairs oid s with
      ⟨e, he⟩ | ⟨before, slot, behind, hslots, hbefore, hoid, -, -, hmodule⟩
    · rw [he] at hrun
      cases hrun
      rfl
    · rw [hmodule] at hrun
      exact createModule_fails h hslots hbefore hoid hrun

theorem remove_fails (oid : Nat) : FailsWith (Unchanged Sound) (remove oid) := by
  refine .of_cases fun s h => (remove_cases h oid).imp_right ?_
  rintro ⟨s', hok, -⟩
  exact ⟨_, s', hok⟩

theorem writeAttribute_fails (handle : ObjectHandle) (name value : Text) :
    FailsWith (Unchanged Sound) (writeAttribute handle name value) := by
  refine .of_cases fun s _ => (writeAttribute_cases handle name value s).imp_right fun hset => ?_
  exact ⟨_, _, hset⟩

/-- A feed of the simulator fails before it begins. -/
theorem follow_fails {γ : Type} (r : Receiver γ) (handle : ObjectHandle) (name : Text) (json : Bool)
    {s s' : Simulator} {g g' : γ} {e : DaemonError}
    (hrun : (follow handle name json s).run r g = (.error e, s', g')) : s' = s ∧ g' = g := by
  have hreads := checkFollowed_reads handle name s
  unfold follow at hrun
  rcases hcheck : checkFollowed handle name s with ⟨e₁ | _, s₁⟩
  · rw [hcheck] at hrun hreads
    cases hrun
    exact ⟨hreads.symm, rfl⟩
  · rw [hcheck] at hrun hreads
    obtain rfl : s = s₁ := hreads
    obtain ⟨g₁, hok⟩ := Feed.exists_run_ofList r s (notifications handle name json s) g
    have hdone := hrun.symm.trans hok
    cases hdone

/-- **What the simulator refuses changes nothing.** -/
theorem transactional : daemon.Transactional Sound where
  list _ := rfl
  attributes _ _ := rfl
  get object name json := .of_reads (readAttribute_reads object name json) fun _ _ _ _ => rfl
  set := writeAttribute_fails
  capability object name := .of_reads (describe_reads object name) fun _ _ _ _ => rfl
  create := create_fails
  remove := remove_fails
  setLogLevel _ _ := .of_succeeds fun _ => ⟨_, _, rfl⟩
  monitor r object name json _ _ _ _ _ hrun _ := follow_fails r object name json hrun

end TransponderShell.Simulator
