import TransponderShell.Proofs.Simulator.Requests

/-!
# Making all interfaces of a new module

A module gets all interfaces that its slot has room for, under the ids that come next: first those
of the network side, then those of the host side, and on each side in the order of their indices
(`Slot.furnished`). This cannot fail as long as the slot has no interfaces yet and the id of the
module is in no other slot (`furnish_of_vacant`, `createModule_of_spawned`).

The loops over the indices are followed with `attachAll_numbered`: what is attached already is
`numbered`, and the next interface comes behind it.
-/

namespace TransponderShell

/-- Interfaces with the indices from zero on and the ids from `first` on. -/
def numbered (first count : Nat) : List InterfaceSummary :=
  (List.range count).map fun index => ⟨index, first + index⟩

theorem numbered_succ (first count : Nat) :
    numbered first (count + 1) = numbered first count ++ [⟨count, first + count⟩] := by
  rw [numbered, List.range_succ, List.map_append]
  rfl

@[simp] theorem map_index_numbered (first count : Nat) :
    (numbered first count).map InterfaceSummary.index = List.range count := by
  simp [numbered, Function.comp_def]

@[simp] theorem map_oid_numbered (first count : Nat) :
    (numbered first count).map InterfaceSummary.oid = List.range' first count := by
  rw [numbered, List.map_map, List.range'_eq_map_range]
  rfl

theorem index_lt_of_mem_numbered {first count : Nat} {i : InterfaceSummary}
    (h : i ∈ numbered first count) : i.index < count := by
  have hindex := List.mem_map_of_mem h (f := InterfaceSummary.index)
  rw [map_index_numbered] at hindex
  exact List.mem_range.1 hindex

namespace Slot

/-- An interface with the greatest index comes last. -/
theorem insertInterface_last {i : InterfaceSummary} {l : List InterfaceSummary}
    (h : ∀ j ∈ l, j.index < i.index) : insertInterface i l = l ++ [i] := by
  induction l with
  | nil => rfl
  | cons j rest ih =>
    have hj := h j (List.mem_cons_self ..)
    rw [insertInterface, if_neg (by omega), ih fun k hk => h k (List.mem_cons_of_mem _ hk)]
    rfl

/-- The slot with other interfaces on a side. -/
def withInterfaces (slot : Slot) (kind : InterfaceKind) (l : List InterfaceSummary) : Slot :=
  match kind with
  | .network => { slot with netifs := l }
  | .host => { slot with hostifs := l }

section WithInterfaces

variable (slot : Slot) (kind : InterfaceKind) (l : List InterfaceSummary)

@[simp] theorem oid_withInterfaces : (slot.withInterfaces kind l).oid = slot.oid := by
  cases kind <;> rfl

@[simp] theorem capacity_withInterfaces (other : InterfaceKind) :
    (slot.withInterfaces kind l).capacity other = slot.capacity other := by
  cases kind <;> rfl

@[simp] theorem interfaces_withInterfaces :
    (slot.withInterfaces kind l).interfaces kind = l := by
  cases kind <;> rfl

@[simp] theorem withInterfaces_withInterfaces (l' : List InterfaceSummary) :
    (slot.withInterfaces kind l).withInterfaces kind l' = slot.withInterfaces kind l' := by
  cases kind <;> rfl

theorem withInterfaces_interfaces : slot.withInterfaces kind (slot.interfaces kind) = slot := by
  cases kind <;> rfl

/-- Behind the interfaces that are there, the one with the next index comes next. -/
theorem attach_numbered {slot : Slot} {kind : InterfaceKind} {first count : Nat}
    (h : slot.interfaces kind = numbered first count) :
    slot.attach kind ⟨count, first + count⟩ =
      slot.withInterfaces kind (numbered first (count + 1)) := by
  have hlast : insertInterface ⟨count, first + count⟩ (slot.interfaces kind) =
      numbered first (count + 1) := by
    rw [h, numbered_succ]
    exact insertInterface_last fun j hj => index_lt_of_mem_numbered hj
  cases kind with
  | network => exact congrArg (fun l => { slot with netifs := l }) hlast
  | host => exact congrArg (fun l => { slot with hostifs := l }) hlast

end WithInterfaces

/-- The slot with a module and all interfaces that it has room for, which have the ids from `first`
on. -/
def furnished (slot : Slot) (oid first : Nat) : Slot :=
  { slot with
    oid := oid
    netifs := numbered first slot.netifCapacity
    hostifs := numbered (first + slot.netifCapacity) slot.hostifCapacity }

end Slot

namespace Simulator

/-- An object without values of its own can always be made. -/
theorem spawn_nil (type : ObjectType) (s : Simulator) :
    ∃ s', spawn type [] s = (.ok s.nextOid, s') ∧ s'.slots = s.slots ∧
      s'.nextOid = s.nextOid + 1 :=
  ⟨_, rfl, rfl, rfl⟩

section Room

variable {kind : InterfaceKind} {s : Simulator} {before behind : List Slot} {slot : Slot}

/-- An interface can be made if there is room for its index. -/
theorem attachInterface_of_room (hslots : s.slots = before ++ slot :: behind)
    (hbefore : ∀ b ∈ before, b.oid ≠ slot.oid) (hoid : slot.oid ≠ 0) {index : Nat}
    (hroom : index < slot.capacity kind) (hnew : ∀ i ∈ slot.interfaces kind, i.index ≠ index) :
    ∃ s', attachInterface kind slot.oid index [] s = (.ok s.nextOid, s') ∧
      s'.slots = before ++ slot.attach kind ⟨index, s.nextOid⟩ :: behind ∧
      s'.nextOid = s.nextOid + 1 := by
  obtain ⟨s₁, hspawn, hslots₁, hnext₁⟩ := spawn_nil (.interface kind) s
  rw [attachInterface_eq hslots hbefore hoid hroom hnew, List.filter_nil, run_bind_ok hspawn]
  exact ⟨_, rfl, slots_updateSlotOf _ (hslots₁.trans hslots) hbefore rfl, hnext₁⟩

/-- **The remaining interfaces of a side can be made**, and get the ids that come next. -/
theorem attachAll_numbered {first made count : Nat} (hslots : s.slots = before ++ slot :: behind)
    (hbefore : ∀ b ∈ before, b.oid ≠ slot.oid) (hoid : slot.oid ≠ 0)
    (hmade : slot.interfaces kind = numbered first made) (hnext : s.nextOid = first + made)
    (hroom : made + count ≤ slot.capacity kind) :
    ∃ s', attachAll kind slot.oid (List.range' made count) s = (.ok (), s') ∧
      s'.slots = before ++ slot.withInterfaces kind (numbered first (made + count)) :: behind ∧
      s'.nextOid = s.nextOid + count := by
  induction count generalizing s slot made with
  | zero =>
    refine ⟨s, rfl, ?_, rfl⟩
    rw [Nat.add_zero, ← hmade, Slot.withInterfaces_interfaces, hslots]
  | succ count ih =>
    have hnew : ∀ i ∈ slot.interfaces kind, i.index ≠ made := by
      intro i hi
      rw [hmade] at hi
      exact Nat.ne_of_lt (index_lt_of_mem_numbered hi)
    obtain ⟨s₁, hattach, hslots₁, hnext₁⟩ :=
      attachInterface_of_room hslots hbefore hoid (by omega) hnew
    rw [hnext, Slot.attach_numbered hmade] at hslots₁
    have hroom₁ : made + 1 + count ≤
        (slot.withInterfaces kind (numbered first (made + 1))).capacity kind := by
      rw [Slot.capacity_withInterfaces]
      omega
    obtain ⟨s₂, hrest, hslots₂, hnext₂⟩ := ih hslots₁ (by simpa using hbefore) (by simpa using hoid)
      (Slot.interfaces_withInterfaces slot kind _) (by omega) hroom₁
    rw [Slot.oid_withInterfaces] at hrest
    refine ⟨s₂, ?_, ?_, by omega⟩
    · rw [List.range'_succ, attachAll, run_bind_ok hattach, hrest]
    · rw [hslots₂, Slot.withInterfaces_withInterfaces, Nat.add_right_comm, Nat.add_assoc]

/-- All interfaces of a side can be made if there are none. -/
theorem attachAll_range (kind : InterfaceKind) (hslots : s.slots = before ++ slot :: behind)
    (hbefore : ∀ b ∈ before, b.oid ≠ slot.oid) (hoid : slot.oid ≠ 0)
    (hempty : slot.interfaces kind = []) :
    ∃ s', attachAll kind slot.oid (List.range (slot.capacity kind)) s = (.ok (), s') ∧
      s'.slots = before ++
        slot.withInterfaces kind (numbered s.nextOid (slot.capacity kind)) :: behind ∧
      s'.nextOid = s.nextOid + slot.capacity kind := by
  have hmade : slot.interfaces kind = numbered s.nextOid 0 := hempty
  have hall := attachAll_numbered hslots hbefore hoid hmade rfl (Nat.le_of_eq (Nat.zero_add _))
  rwa [← List.range_eq_range', Nat.zero_add] at hall

/-- **A new module gets all its interfaces.** What is left to do for it cannot fail. -/
theorem furnish_of_vacant {oid : Nat} (hslots : s.slots = before ++ slot :: behind)
    (hlocation : ∀ b ∈ before, b.location ≠ slot.location) (hfresh : ∀ b ∈ before, b.oid ≠ oid)
    (hoid : oid ≠ 0) (hempty : ∀ kind, slot.interfaces kind = []) :
    ∃ s', furnish slot oid s = (.ok oid, s') ∧
      s'.slots = before ++ slot.furnished oid s.nextOid :: behind ∧
      s'.nextOid = s.nextOid + slot.netifCapacity + slot.hostifCapacity := by
  unfold furnish
  rw [run_bind_ok (run_modify ..), run_bind_ok (run_modify ..)]
  generalize hs₁ : ((s.updateValues _ _).updateSlotAt _ _) = s₁
  have hslots₁ : s₁.slots = before ++ { slot with oid := oid } :: behind := by
    rw [← hs₁]
    exact slots_updateSlotAt _ hslots hlocation
  have hnext₁ : s₁.nextOid = s.nextOid := by
    rw [← hs₁]
    rfl
  obtain ⟨s₂, hnetwork, hslots₂, hnext₂⟩ :=
    attachAll_range .network hslots₁ hfresh hoid (hempty .network)
  obtain ⟨s₃, hhost, hslots₃, hnext₃⟩ :=
    attachAll_range .host hslots₂ hfresh hoid (hempty .host)
  change attachAll .network oid (List.range slot.netifCapacity) s₁ = (.ok (), s₂) at hnetwork
  change attachAll .host oid (List.range slot.hostifCapacity) s₂ = (.ok (), s₃) at hhost
  refine ⟨s₃, ?_, ?_, ?_⟩
  · unfold attachSides
    rw [run_bind_ok hnetwork, run_bind_ok hhost]
    rfl
  · rw [hslots₃, hnext₂, hnext₁]
    rfl
  · rw [hnext₃, hnext₂, hnext₁]
    rfl

/-- **A module whose object has been made is in its slot**, with all its interfaces. -/
theorem createModule_of_spawned {pairs : List (Text × Text)} {s₁ : Simulator}
    (hspawn : spawn .module (pairs.filter fun p => p.1 ≠ locationName) s = (.ok s.nextOid, s₁))
    (hslots₁ : s₁.slots = before ++ slot :: behind) (hnext₁ : s₁.nextOid = s.nextOid + 1)
    (hlocation : ∀ b ∈ before, b.location ≠ slot.location)
    (hfresh : ∀ b ∈ before, b.oid ≠ s.nextOid) (hnext : s.nextOid ≠ 0)
    (hempty : ∀ kind, slot.interfaces kind = []) :
    ∃ s', createModule slot pairs s = (.ok s.nextOid, s') ∧
      s'.slots = before ++ slot.furnished s.nextOid (s.nextOid + 1) :: behind ∧
      s'.nextOid = s.nextOid + 1 + slot.netifCapacity + slot.hostifCapacity := by
  obtain ⟨s₂, hfurnish, hslots₂, hnext₂⟩ :=
    furnish_of_vacant hslots₁ hlocation hfresh hnext hempty
  rw [hnext₁] at hslots₂ hnext₂
  refine ⟨s₂, ?_, hslots₂, hnext₂⟩
  rw [createModule_eq, run_bind_ok hspawn, hfurnish]

end Room

end Simulator

end TransponderShell
