import Mathlib.Data.List.Nodup
import TransponderShell.Proofs.Simulator.Slots
import TransponderShell.Simulator.Lemmas
import TransponderShell.Simulator.Operations
import TransponderShell.Text.Lemmas

/-!
# What holds of the simulator at all times

The objects of the simulator are recorded twice: `Simulator.directory` are the live objects with
their types, and `Simulator.listing` those that the slots list. `Simulator.Sound` says that both are
the same up to their order, that ids are handed out in ascending order, and that the slots are sound
and ordered by location.

A change keeps this if it records one more object on both sides (`Sound.extend`) or takes an id off
both sides (`Sound.shrink`). The changes that requests make to a slot are of these two kinds:
`Sound.attach` and `Sound.create`, `Sound.detach` and `Sound.vacate`.
-/

namespace TransponderShell

namespace Simulator

/-- The live objects with their types. -/
def directory (s : Simulator) : List (Nat × ObjectType) :=
  s.objects.map fun (oid, object) => (oid, object.type)

/-- The objects that the slots list, each with the type that it is listed as. -/
def listing (s : Simulator) : List (Nat × ObjectType) := s.slots.flatMap Slot.listing

/-- A live object of an id has a type there. -/
theorem mem_directory_of_object? {s : Simulator} {oid : Nat} {object : LiveObject}
    (h : s.object? oid = some object) : (oid, object.type) ∈ s.directory := by
  obtain ⟨before, behind, hobjects, -⟩ := List.lookup_eq_some_iff.1 h
  simp [directory, hobjects]

/-- What holds of the simulator at all times. -/
structure Sound (s : Simulator) : Prop where
  ordered : (s.slots.map Slot.location).Pairwise fun a b => a.le b = true ∧ a ≠ b
  slot : ∀ slot ∈ s.slots, slot.Sound
  ascending : (s.directory.map Prod.fst).Pairwise (· < ·)
  pos : ∀ p ∈ s.directory, 0 < p.1
  lt_next : ∀ p ∈ s.directory, p.1 < s.nextOid
  next_pos : 0 < s.nextOid
  /-- What the slots list is what is live. -/
  listing_perm : s.listing.Perm s.directory

namespace Sound

variable {s s' : Simulator} {before behind : List Slot} {slot : Slot} {oid : Nat}

/-! ## What follows -/

/-- Only the slots, the live objects with their types and the next id matter. -/
theorem congr (h : s.Sound) (hslots : s'.slots = s.slots)
    (hdirectory : s'.directory = s.directory) (hnext : s'.nextOid = s.nextOid) : s'.Sound where
  ordered := hslots ▸ h.ordered
  slot := hslots ▸ h.slot
  ascending := hdirectory ▸ h.ascending
  pos := hdirectory ▸ h.pos
  lt_next := by rw [hdirectory, hnext]; exact h.lt_next
  next_pos := by rw [hnext]; exact h.next_pos
  listing_perm := by rw [listing, hslots, hdirectory]; exact h.listing_perm

/-- Every id is live once. -/
theorem nodup_directory (h : s.Sound) : (s.directory.map Prod.fst).Nodup :=
  h.ascending.imp Nat.ne_of_lt

/-- Every id is listed once. -/
theorem nodup_listing (h : s.Sound) : (s.listing.map Prod.fst).Nodup :=
  (h.listing_perm.map Prod.fst).nodup_iff.2 h.nodup_directory

theorem mem_directory (h : s.Sound) (hslot : slot ∈ s.slots) {p : Nat × ObjectType}
    (hp : p ∈ slot.listing) : p ∈ s.directory :=
  h.listing_perm.mem_iff.1 (List.mem_flatMap.2 ⟨slot, hslot, hp⟩)

theorem oid_ne_zero (h : s.Sound) (hslot : slot ∈ s.slots) :
    ∀ kind, ∀ i ∈ slot.interfaces kind, i.oid ≠ 0 := by
  intro kind i hi
  exact Nat.ne_of_gt (h.pos _ (h.mem_directory hslot (Slot.mem_listing_interface hi)))

/-- An id has one type. -/
theorem type_unique (h : s.Sound) {t u : ObjectType} (ht : (oid, t) ∈ s.directory)
    (hu : (oid, u) ∈ s.directory) : t = u := by
  have heq := List.inj_on_of_nodup_map h.nodup_directory ht hu rfl
  exact congrArg Prod.snd heq

/-- A live object is found under its id. -/
theorem object?_of_mem (h : s.Sound) {object : LiveObject} (hmem : (oid, object) ∈ s.objects) :
    s.object? oid = some object := by
  refine lookup_of_mem ?_ hmem
  have hnodup := h.nodup_directory
  rw [directory, List.map_map] at hnodup
  exact hnodup

/-- A live id is the id of an object of its type. -/
theorem exists_object (h : s.Sound) {type : ObjectType} (hlive : (oid, type) ∈ s.directory) :
    ∃ object, s.object? oid = some object ∧ object.type = type := by
  obtain ⟨⟨id, object⟩, hmem, heq⟩ := List.mem_map.1 hlive
  obtain ⟨rfl, rfl⟩ := Prod.mk.inj heq
  exact ⟨object, h.object?_of_mem hmem, rfl⟩

/-- No slot before another one is at the same location. -/
theorem location_ne (h : s.Sound) (hslots : s.slots = before ++ slot :: behind) :
    ∀ b ∈ before, b.location ≠ slot.location := by
  intro b hb
  have hordered := h.ordered
  rw [hslots, List.map_append, List.map_cons] at hordered
  exact ((List.pairwise_append.1 hordered).2.2 _ (List.mem_map_of_mem hb) _
    (List.mem_cons_self ..)).2

/-- No slot before that of a module has the same module. -/
theorem oid_ne (h : s.Sound) (hslots : s.slots = before ++ slot :: behind) (hoid : slot.oid ≠ 0) :
    ∀ b ∈ before, b.oid ≠ slot.oid := by
  intro b hb heq
  have hnodup := h.nodup_listing
  rw [listing, hslots, List.flatMap_append, List.flatMap_cons, List.map_append, List.map_append,
    List.nodup_append] at hnodup
  have hbefore : slot.oid ∈ (before.flatMap Slot.listing).map Prod.fst :=
    List.mem_map_of_mem (List.mem_flatMap.2 ⟨b, hb, heq ▸ Slot.mem_listing_module (heq ▸ hoid)⟩)
  have hslot : slot.oid ∈ slot.listing.map Prod.fst :=
    List.mem_map_of_mem (Slot.mem_listing_module hoid)
  exact hnodup.2.2 _ hbefore _ (List.mem_append_left _ hslot) rfl

/-- There is one slot at a location. -/
theorem slot_unique (h : s.Sound) {a b : Slot} (ha : a ∈ s.slots) (hb : b ∈ s.slots)
    (hlocation : a.location = b.location) : a = b :=
  List.inj_on_of_nodup_map (h.ordered.imp And.right) ha hb hlocation

/-- A live module is in a slot. -/
theorem exists_slot (h : s.Sound) (hlive : (oid, .module) ∈ s.directory) :
    ∃ slot ∈ s.slots, slot.oid = oid := by
  obtain ⟨slot, hslot, hlisted⟩ := List.mem_flatMap.1 (h.listing_perm.mem_iff.2 hlive)
  rcases Slot.mem_listing.1 hlisted with ⟨-, hoid, -⟩ | ⟨kind, i, -, -, htype⟩
  · exact ⟨slot, hslot, hoid.symm⟩
  · cases htype

/-! ## One object more, one object less -/

/-- **One object more.** A slot lists the object that becomes live. -/
theorem extend (h : s.Sound) {type : ObjectType} {slot' : Slot}
    (hslots : s.slots = before ++ slot :: behind)
    (hslots' : s'.slots = before ++ slot' :: behind)
    (hlocation : slot'.location = slot.location) (hslot : slot'.Sound)
    (hlisting : slot'.listing.Perm (slot.listing ++ [(s.nextOid, type)]))
    (hdirectory : s'.directory = s.directory ++ [(s.nextOid, type)])
    (hnext : s'.nextOid = s.nextOid + 1) : s'.Sound where
  ordered := by
    have hlocations : s'.slots.map Slot.location = s.slots.map Slot.location := by
      simp [hslots, hslots', hlocation]
    rw [hlocations]
    exact h.ordered
  slot a ha := by
    have hold := h.slot a
    rw [hslots] at hold
    rw [hslots', List.mem_append, List.mem_cons] at ha
    rcases ha with ha | rfl | ha
    · exact hold (List.mem_append_left _ ha)
    · exact hslot
    · exact hold (List.mem_append_right _ (List.mem_cons_of_mem _ ha))
  ascending := by
    rw [hdirectory, List.map_append]
    refine List.pairwise_append.2 ⟨h.ascending, List.pairwise_singleton .., fun a ha b hb => ?_⟩
    obtain ⟨p, hp, rfl⟩ := List.mem_map.1 ha
    obtain rfl : b = s.nextOid := by simpa using hb
    exact h.lt_next p hp
  pos p hp := by
    rw [hdirectory, List.mem_append, List.mem_singleton] at hp
    rcases hp with hp | rfl
    · exact h.pos p hp
    · exact h.next_pos
  lt_next p hp := by
    rw [hdirectory, List.mem_append, List.mem_singleton] at hp
    rw [hnext]
    rcases hp with hp | rfl
    · exact Nat.lt_succ_of_lt (h.lt_next p hp)
    · exact Nat.lt_succ_self _
  next_pos := by rw [hnext]; exact Nat.succ_pos _
  listing_perm := by
    have hlistings : s'.listing.Perm (s.listing ++ [(s.nextOid, type)]) := by
      simp only [listing, hslots, hslots', List.flatMap_append, List.flatMap_cons,
        List.append_assoc]
      refine List.Perm.append_left _ ((hlisting.append_right _).trans ?_)
      rw [List.append_assoc]
      exact List.perm_append_comm.append_left _
    rw [hdirectory]
    exact hlistings.trans (h.listing_perm.append_right _)

/-- **One object less.** The slots no longer list the object that is let go. -/
theorem shrink (h : s.Sound) (oid : Nat)
    (hlocation : s'.slots.map Slot.location = s.slots.map Slot.location)
    (hslot : ∀ slot ∈ s'.slots, slot.Sound)
    (hlisting : s'.listing = s.listing.filter fun p => p.1 ≠ oid)
    (hdirectory : s'.directory = s.directory.filter fun p => p.1 ≠ oid)
    (hnext : s'.nextOid = s.nextOid) : s'.Sound where
  ordered := hlocation ▸ h.ordered
  slot := hslot
  ascending := by
    rw [hdirectory]
    exact h.ascending.sublist (List.filter_sublist.map Prod.fst)
  pos p hp := by
    rw [hdirectory] at hp
    exact h.pos p (List.mem_of_mem_filter hp)
  lt_next p hp := by
    rw [hdirectory] at hp
    rw [hnext]
    exact h.lt_next p (List.mem_of_mem_filter hp)
  next_pos := by rw [hnext]; exact h.next_pos
  listing_perm := by
    rw [hlisting, hdirectory]
    exact h.listing_perm.filter _

/-! ## The changes of requests -/

/-- An interface with a new index is attached to a created module. -/
theorem attach (h : s.Sound) {kind : InterfaceKind} {index : Nat}
    (hslots : s.slots = before ++ slot :: behind) (hoid : slot.oid ≠ 0)
    (hlt : index < slot.capacity kind) (hnew : ∀ i ∈ slot.interfaces kind, i.index ≠ index)
    (hslots' : s'.slots = before ++ slot.attach kind ⟨index, s.nextOid⟩ :: behind)
    (hdirectory : s'.directory = s.directory ++ [(s.nextOid, .interface kind)])
    (hnext : s'.nextOid = s.nextOid + 1) : s'.Sound := by
  have hslot := h.slot slot (by simp [hslots])
  exact h.extend hslots hslots' (Slot.location_attach ..) (hslot.attach hoid hlt hnew)
    (Slot.listing_attach ..) hdirectory hnext

/-- A module is put into hardware without one. -/
theorem create (h : s.Sound) (hslots : s.slots = before ++ slot :: behind) (hoid : slot.oid = 0)
    (hpresent : slot.present = true)
    (hslots' : s'.slots = before ++ { slot with oid := s.nextOid } :: behind)
    (hdirectory : s'.directory = s.directory ++ [(s.nextOid, .module)])
    (hnext : s'.nextOid = s.nextOid + 1) : s'.Sound := by
  have hslot := h.slot slot (by simp [hslots])
  have hempty := hslot.interfaces_of_vacant hoid
  have hlisting : ({ slot with oid := s.nextOid } : Slot).listing.Perm
      (slot.listing ++ [(s.nextOid, .module)]) := by
    have hcreated := @Slot.listing_of_empty { slot with oid := s.nextOid } hempty
    rw [hcreated, Slot.listing_of_empty hempty, if_pos hoid, if_neg (Nat.ne_of_gt h.next_pos)]
    exact List.Perm.refl _
  exact h.extend hslots hslots' rfl (hslot.withOid (Or.inr hpresent) hempty) hlisting hdirectory
    hnext

/-- A module without interfaces is taken out of its slot. -/
theorem vacate (h : s.Sound) (hslots : s.slots = before ++ slot :: behind) (hoid : slot.oid ≠ 0)
    (hempty : ∀ kind, slot.interfaces kind = [])
    (hslots' : s'.slots = before ++ { slot with oid := 0 } :: behind)
    (hdirectory : s'.directory = s.directory.filter fun p => p.1 ≠ slot.oid)
    (hnext : s'.nextOid = s.nextOid) : s'.Sound := by
  have hlisting : s.listing =
      before.flatMap Slot.listing ++ (slot.oid, .module) :: behind.flatMap Slot.listing := by
    simp [listing, hslots, Slot.listing_of_empty hempty, hoid]
  have hlisting' : s'.listing = before.flatMap Slot.listing ++ behind.flatMap Slot.listing := by
    have hvacant := @Slot.listing_of_empty { slot with oid := 0 } hempty
    simp [listing, hslots', hvacant]
  refine h.shrink slot.oid (by simp [hslots, hslots']) (fun a ha => ?_) ?_ hdirectory hnext
  · have hold := h.slot a
    rw [hslots] at hold
    rw [hslots', List.mem_append, List.mem_cons] at ha
    rcases ha with ha | rfl | ha
    · exact hold (List.mem_append_left _ ha)
    · exact (h.slot slot (by simp [hslots])).withOid (Or.inl rfl) hempty
    · exact hold (List.mem_append_right _ (List.mem_cons_of_mem _ ha))
  · -- no other slot lists the id
    have hnodup := h.nodup_listing
    rw [hlisting, List.map_append, List.map_cons, List.nodup_middle, List.nodup_cons] at hnodup
    have hother : ∀ p ∈ before.flatMap Slot.listing ++ behind.flatMap Slot.listing,
        p.1 ≠ slot.oid := by
      intro p hp he
      refine hnodup.1 ?_
      rw [← List.map_append, ← he]
      exact List.mem_map.2 ⟨p, hp, rfl⟩
    rw [hlisting, hlisting', List.filter_append, List.filter_cons_of_neg (by simp),
      ← List.filter_append, List.filter_eq_self.2 fun p hp => decide_eq_true (hother p hp)]

/-- An interface is detached, wherever it is listed. -/
theorem detach (h : s.Sound) {kind : InterfaceKind} (hlive : (oid, .interface kind) ∈ s.directory)
    (hslots' : s'.slots = s.slots.map (Slot.detach · oid))
    (hdirectory : s'.directory = s.directory.filter fun p => p.1 ≠ oid)
    (hnext : s'.nextOid = s.nextOid) : s'.Sound := by
  have hmodule : ∀ slot ∈ s.slots, slot.oid ≠ oid := by
    intro slot hslot he
    have hpos : oid ≠ 0 := Nat.ne_of_gt (h.pos _ hlive)
    have hmem : (oid, ObjectType.module) ∈ s.directory :=
      he ▸ h.mem_directory hslot (Slot.mem_listing_module (he ▸ hpos))
    cases h.type_unique hlive hmem
  refine h.shrink oid ?_ ?_ ?_ hdirectory hnext
  · rw [hslots', List.map_map]
    rfl
  · intro slot hslot
    rw [hslots'] at hslot
    obtain ⟨old, hold, rfl⟩ := List.mem_map.1 hslot
    exact (h.slot old hold).detach oid
  · rw [listing, listing, hslots', List.flatMap_map, List.filter_flatMap]
    exact List.flatMap_congr fun slot hslot => Slot.listing_detach (hmodule slot hslot)

end Sound

end Simulator

end TransponderShell
