import Mathlib.Data.List.Forall2
import TransponderShell.Proofs.Simulator.Furnishing
import TransponderShell.Simulator.Fixture

/-!
# Making the modules of a fixture

`Simulator.seeded` are the slots of a fixture once its modules have been made, with object ids from
a given one on. Making them does not fail, and these are the slots it leads to
(`createAll_of_vacant`): the slots that have been dealt with come first, and the next module gets
the next id.

The slots are as their modules describe them (`FixtureModule.Describes`, `forall₂_seeded`), and slot
by slot the ids are consecutive (`createdOids_seeded`).
-/

namespace TransponderShell

/-- Whether a fixture asks for the module: the slot is not empty, and its module is to be made. -/
def FixtureModule.Wanted (m : FixtureModule) : Prop := m.present = true ∧ m.created = true

instance (m : FixtureModule) : Decidable m.Wanted :=
  inferInstanceAs (Decidable (m.present = true ∧ m.created = true))

/-- A slot is reported as the module of a fixture describes it: with an object if that is wanted,
and then with all interfaces. -/
structure FixtureModule.Describes (m : FixtureModule) (slot : ModuleSummary) : Prop where
  location : slot.location = m.location
  present : slot.present = m.present
  created : slot.oid ≠ 0 ↔ m.Wanted
  netifs : slot.netifs.map InterfaceSummary.index = if m.Wanted then List.range m.netifs else []
  hostifs : slot.hostifs.map InterfaceSummary.index = if m.Wanted then List.range m.hostifs else []

/-- The ids of all objects, slot by slot. -/
def createdOids (slots : List ModuleSummary) : List Nat :=
  (slots.filter fun slot => slot.oid ≠ 0).flatMap ModuleSummary.oids

theorem createdOids_cons_of_ne {slot : ModuleSummary} (h : slot.oid ≠ 0)
    (rest : List ModuleSummary) : createdOids (slot :: rest) = slot.oids ++ createdOids rest := by
  simp [createdOids, h]

theorem createdOids_cons_of_eq {slot : ModuleSummary} (h : slot.oid = 0)
    (rest : List ModuleSummary) : createdOids (slot :: rest) = createdOids rest := by
  simp [createdOids, h]

namespace Simulator

/-- The slots of a fixture with the modules that it asks for, which have ids from `next` on. -/
def seeded (next : Nat) : List FixtureModule → List Slot
  | [] => []
  | m :: rest =>
    if m.Wanted then
      (slotOf m).furnished next (next + 1) :: seeded (next + 1 + m.netifs + m.hostifs) rest
    else slotOf m :: seeded next rest

theorem seeded_cons_of_wanted {m : FixtureModule} (h : m.Wanted) (next : Nat)
    (rest : List FixtureModule) : seeded next (m :: rest) =
      (slotOf m).furnished next (next + 1) ::
        seeded (next + 1 + m.netifs + m.hostifs) rest := by
  rw [seeded, if_pos h]

theorem seeded_cons_of_not {m : FixtureModule} (h : ¬m.Wanted) (next : Nat)
    (rest : List FixtureModule) : seeded next (m :: rest) = slotOf m :: seeded next rest := by
  rw [seeded, if_neg h]

/-! ## Making the modules -/

theorem createAll_cons_of_not {m : FixtureModule} (h : ¬m.Wanted) (rest : List FixtureModule)
    (s : Simulator) : createAll (m :: rest) s = createAll rest s := by
  rw [createAll, if_neg fun hwanted => h (Bool.and_eq_true_iff.1 hwanted)]

theorem createAll_cons_of_ok {m : FixtureModule} (h : m.Wanted) {s s' : Simulator} {oid : Nat}
    (hrun : createModule (slotOf m) [] s = (.ok oid, s')) (rest : List FixtureModule) :
    createAll (m :: rest) s = createAll rest s' := by
  rw [createAll, if_pos (Bool.and_eq_true_iff.2 h), hrun]

/-- The next module gets the next id, and its interfaces those after it. -/
theorem createModule_of_vacant {s : Simulator} {before behind : List Slot} {m : FixtureModule}
    (hslots : s.slots = before ++ slotOf m :: behind)
    (hlocation : ∀ b ∈ before, b.location ≠ m.location) (hfresh : ∀ b ∈ before, b.oid ≠ s.nextOid)
    (hnext : s.nextOid ≠ 0) :
    ∃ s', createModule (slotOf m) [] s = (.ok s.nextOid, s') ∧
      s'.slots = before ++ (slotOf m).furnished s.nextOid (s.nextOid + 1) :: behind ∧
      s'.nextOid = s.nextOid + 1 + m.netifs + m.hostifs := by
  obtain ⟨s₁, hspawn, hslots₁, hnext₁⟩ := spawn_nil .module s
  have hempty : ∀ kind, (slotOf m).interfaces kind = [] := fun kind => by cases kind <;> rfl
  exact createModule_of_spawned hspawn (hslots₁.trans hslots) hnext₁ hlocation hfresh hnext hempty

/-- **The modules of a fixture can be made**, those in `made` already dealt with. -/
theorem createAll_of_vacant {modules : List FixtureModule} {s : Simulator} {made : List Slot}
    (hslots : s.slots = made ++ modules.map slotOf)
    (hlocations : (made.map Slot.location ++ modules.map FixtureModule.location).Nodup)
    (hused : ∀ slot ∈ made, slot.oid < s.nextOid) (hnext : 0 < s.nextOid) :
    ∃ s', createAll modules s = .ok s' ∧ s'.slots = made ++ seeded s.nextOid modules := by
  induction modules generalizing s made with
  | nil => exact ⟨s, rfl, hslots⟩
  | cons m rest ih =>
    -- with one more slot at the location of `m`, the rest is where this began
    have hlocations' {slot : Slot} (hslot : slot.location = m.location) :
        ((made ++ [slot]).map Slot.location ++ rest.map FixtureModule.location).Nodup := by
      simpa [hslot] using hlocations
    have hused' {slot : Slot} {bound : Nat} (hbound : s.nextOid ≤ bound)
        (hslot : slot.oid < bound) : ∀ b ∈ made ++ [slot], b.oid < bound := by
      intro b hb
      rcases List.mem_append.1 hb with hmade | hlast
      · exact Nat.lt_of_lt_of_le (hused b hmade) hbound
      · exact List.mem_singleton.1 hlast ▸ hslot
    by_cases hwanted : m.Wanted
    · have hlocation : ∀ b ∈ made, b.location ≠ m.location := by
        intro b hb
        exact (List.nodup_append.1 hlocations).2.2 _ (List.mem_map_of_mem hb) _
          (List.mem_cons_self ..)
      have hfresh : ∀ b ∈ made, b.oid ≠ s.nextOid := fun b hb => Nat.ne_of_lt (hused b hb)
      obtain ⟨s₁, hrun, hslots₁, hnext₁⟩ :=
        createModule_of_vacant hslots hlocation hfresh (Nat.ne_of_gt hnext)
      have hlt : s.nextOid < s₁.nextOid := by omega
      rw [List.append_cons] at hslots₁
      obtain ⟨s₂, hrest, hslots₂⟩ :=
        ih hslots₁ (hlocations' rfl) (hused' (Nat.le_of_lt hlt) hlt) (Nat.zero_lt_of_lt hlt)
      refine ⟨s₂, by rw [createAll_cons_of_ok hwanted hrun, hrest], ?_⟩
      rw [hslots₂, hnext₁, seeded_cons_of_wanted hwanted, ← List.append_cons]
    · rw [List.map_cons, List.append_cons] at hslots
      obtain ⟨s₁, hrest, hslots₁⟩ :=
        ih hslots (hlocations' rfl) (hused' (Nat.le_refl _) hnext) hnext
      refine ⟨s₁, by rw [createAll_cons_of_not hwanted, hrest], ?_⟩
      rw [hslots₁, seeded_cons_of_not hwanted, ← List.append_cons]

/-! ## What the slots are -/

/-- The slots are as the modules describe them. -/
theorem forall₂_seeded {next : Nat} (hnext : 0 < next) (modules : List FixtureModule) :
    List.Forall₂ FixtureModule.Describes modules ((seeded next modules).map Slot.summary) := by
  induction modules generalizing next with
  | nil => exact .nil
  | cons m rest ih =>
    by_cases hwanted : m.Wanted
    · rw [seeded_cons_of_wanted hwanted]
      refine .cons ⟨rfl, rfl, iff_of_true (Nat.ne_of_gt hnext) hwanted, ?_, ?_⟩ (ih (by omega))
      · rw [if_pos hwanted]
        exact map_index_numbered ..
      · rw [if_pos hwanted]
        exact map_index_numbered ..
    · rw [seeded_cons_of_not hwanted]
      refine .cons ⟨rfl, rfl, iff_of_false (fun h => h rfl) hwanted, ?_, ?_⟩ (ih hnext)
      · rw [if_neg hwanted]
        rfl
      · rw [if_neg hwanted]
        rfl

/-- A slot with a module has consecutive ids: the module, the network side, the host side. -/
theorem oids_furnished (m : FixtureModule) (next : Nat) :
    ((slotOf m).furnished next (next + 1)).summary.oids =
      List.range' next (1 + m.netifs + m.hostifs) := by
  show next :: (numbered (next + 1) m.netifs ++ numbered (next + 1 + m.netifs) m.hostifs).map
    InterfaceSummary.oid = _
  rw [List.map_append, map_oid_numbered, map_oid_numbered, List.range'_append_1, Nat.add_assoc 1,
    Nat.add_comm 1, List.range'_succ]

/-- **The ids are consecutive**, slot by slot. -/
theorem createdOids_seeded {next : Nat} (hnext : 0 < next) (modules : List FixtureModule) :
    ∃ count, createdOids ((seeded next modules).map Slot.summary) = List.range' next count := by
  induction modules generalizing next with
  | nil => exact ⟨0, rfl⟩
  | cons m rest ih =>
    by_cases hwanted : m.Wanted
    · obtain ⟨count, hrest⟩ : ∃ count, createdOids
          ((seeded (next + 1 + m.netifs + m.hostifs) rest).map Slot.summary) =
            List.range' (next + (1 + m.netifs + m.hostifs)) count := by
        rw [← Nat.add_assoc, ← Nat.add_assoc]
        exact ih (by omega)
      refine ⟨1 + m.netifs + m.hostifs + count, ?_⟩
      rw [seeded_cons_of_wanted hwanted, List.map_cons,
        createdOids_cons_of_ne (Nat.ne_of_gt hnext), oids_furnished, hrest, List.range'_append_1]
    · obtain ⟨count, hrest⟩ := ih hnext
      refine ⟨count, ?_⟩
      rw [seeded_cons_of_not hwanted, List.map_cons, createdOids_cons_of_eq rfl, hrest]

end Simulator

end TransponderShell
