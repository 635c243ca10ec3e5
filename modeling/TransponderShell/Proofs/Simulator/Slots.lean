import Mathlib.Data.List.Perm.Basic
import TransponderShell.Simulator.State

/-!
# Slots and what they list

`Slot.listing` are the objects that a slot lists, each id with the type that it is listed as: the
module if there is one, and its interfaces. Attaching an interface lists one more object
(`listing_attach`), and detaching one takes its id out of the listing (`listing_detach`).

`Slot.Sound` says of one slot on its own what holds of it at all times; `Slot.Sound.attach` and
`Slot.Sound.detach` say that attaching and detaching keep it.
-/

namespace TransponderShell

/-! ## Changing one element of a list -/

section UpdateFirst

variable {α : Type} {p : α → Bool} {f : α → α}

theorem updateFirst_append {a : α} {before : List α} (hbefore : ∀ b ∈ before, p b = false)
    (ha : p a = true) (behind : List α) :
    updateFirst p f (before ++ a :: behind) = before ++ f a :: behind := by
  induction before with
  | nil => simp [updateFirst, ha]
  | cons b before ih =>
    have hb := hbefore b (List.mem_cons_self ..)
    simp [updateFirst, hb, ih fun c hc => hbefore c (List.mem_cons_of_mem _ hc)]

/-- The elements before the one that is found do not have the property. -/
theorem exists_of_find? {as : List α} {a : α} (h : as.find? p = some a) :
    ∃ before behind, as = before ++ a :: behind ∧ (∀ b ∈ before, p b = false) ∧ p a = true := by
  obtain ⟨ha, before, behind, rfl, hbefore⟩ := List.find?_eq_some_iff_append.1 h
  exact ⟨before, behind, rfl, fun b hb => by simpa using hbefore b hb, ha⟩

end UpdateFirst

namespace Slot

/-! ## Interfaces in the order of their indices -/

theorem insertInterface_perm (i : InterfaceSummary) (l : List InterfaceSummary) :
    (insertInterface i l).Perm (i :: l) := by
  induction l with
  | nil => exact List.Perm.refl _
  | cons j rest ih =>
    simp only [insertInterface]
    split
    · exact List.Perm.refl _
    · exact (ih.cons j).trans (List.Perm.swap i j rest)

theorem pairwise_insertInterface {i : InterfaceSummary} {l : List InterfaceSummary}
    (hl : l.Pairwise fun a b => a.index < b.index) (hi : ∀ j ∈ l, j.index ≠ i.index) :
    (insertInterface i l).Pairwise fun a b => a.index < b.index := by
  induction l with
  | nil => exact List.pairwise_singleton ..
  | cons j rest ih =>
    obtain ⟨hj, hrest⟩ := List.pairwise_cons.1 hl
    have hne := hi j (List.mem_cons_self ..)
    simp only [insertInterface]
    split
    · rename_i hlt
      refine List.pairwise_cons.2 ⟨fun k hk => ?_, hl⟩
      rcases List.mem_cons.1 hk with rfl | hk
      · exact hlt
      · exact Nat.lt_trans hlt (hj k hk)
    · rename_i hle
      refine List.pairwise_cons.2
        ⟨fun k hk => ?_, ih hrest fun k hk => hi k (List.mem_cons_of_mem _ hk)⟩
      rcases List.mem_cons.1 ((insertInterface_perm i rest).mem_iff.1 hk) with rfl | hk
      · omega
      · exact hj k hk

/-! ## The listing of a slot -/

/-- The interfaces of a side as they are listed. -/
def listed (slot : Slot) (kind : InterfaceKind) : List (Nat × ObjectType) :=
  (slot.interfaces kind).map fun i => (i.oid, .interface kind)

/-- The objects that a slot lists: their ids, each with the type that it is listed as. -/
def listing (slot : Slot) : List (Nat × ObjectType) :=
  (if slot.oid = 0 then [] else [(slot.oid, .module)]) ++
    (slot.listed .network ++ slot.listed .host)

@[simp] theorem interfaces_summary (slot : Slot) (kind : InterfaceKind) :
    slot.summary.interfaces kind = slot.interfaces kind := by
  cases kind <;> rfl

/-- A slot without interfaces on either side has none. -/
theorem interfaces_eq_nil {slot : Slot}
    (h : ¬(!slot.netifs.isEmpty || !slot.hostifs.isEmpty) = true) (kind : InterfaceKind) :
    slot.interfaces kind = [] := by
  have hempty : slot.netifs = [] ∧ slot.hostifs = [] := by simpa using h
  cases kind with
  | network => exact hempty.1
  | host => exact hempty.2

/-- A slot with its module, whatever interfaces this has. -/
def bare (slot : Slot) : Slot := { slot with netifs := [], hostifs := [] }

/-- The hardware of a slot, whatever has been created in it. -/
def hardware (slot : Slot) : Slot := { slot.bare with oid := 0 }

@[simp] theorem bare_attach (slot : Slot) (kind : InterfaceKind) (i : InterfaceSummary) :
    (slot.attach kind i).bare = slot.bare := by
  cases kind <;> rfl

@[simp] theorem hardware_attach (slot : Slot) (kind : InterfaceKind) (i : InterfaceSummary) :
    (slot.attach kind i).hardware = slot.hardware := by
  cases kind <;> rfl

@[simp] theorem hardware_detach (slot : Slot) (oid : Nat) :
    (slot.detach oid).hardware = slot.hardware := rfl

@[simp] theorem hardware_create (slot : Slot) (oid : Nat) :
    { slot with oid := oid }.hardware = slot.hardware := rfl

/-- Slots with the same modules have the same hardware. -/
theorem map_hardware_of_map_bare {slots slots' : List Slot}
    (h : slots'.map bare = slots.map bare) : slots'.map hardware = slots.map hardware := by
  have hbare (slots : List Slot) : slots.map hardware =
      (slots.map bare).map fun slot => { slot with oid := 0 } := by
    rw [List.map_map]
    rfl
  rw [hbare, hbare, h]

/-- The objects of a slot are its module, if there is one, and its interfaces. -/
theorem mem_listing {slot : Slot} {oid : Nat} {type : ObjectType} :
    (oid, type) ∈ slot.listing ↔ (slot.oid ≠ 0 ∧ oid = slot.oid ∧ type = .module) ∨
      ∃ kind, ∃ i ∈ slot.interfaces kind, oid = i.oid ∧ type = .interface kind := by
  have hkind (kind : InterfaceKind) : (oid, type) ∈ slot.listed kind ↔
      ∃ i ∈ slot.interfaces kind, oid = i.oid ∧ type = .interface kind := by
    simp [listed, eq_comm]
  have hkinds : (∃ kind, ∃ i ∈ slot.interfaces kind, oid = i.oid ∧ type = .interface kind) ↔
      (oid, type) ∈ slot.listed .network ∨ (oid, type) ∈ slot.listed .host := by
    rw [hkind, hkind]
    constructor
    · rintro ⟨kind | kind, h⟩
      · exact Or.inl h
      · exact Or.inr h
    · rintro (h | h)
      · exact ⟨_, h⟩
      · exact ⟨_, h⟩
  rw [hkinds, listing, List.mem_append, List.mem_append]
  refine or_congr ?_ Iff.rfl
  split
  · rename_i h
    simp [h]
  · rename_i h
    simp [h]

theorem mem_listing_module {slot : Slot} (h : slot.oid ≠ 0) : (slot.oid, .module) ∈ slot.listing :=
  mem_listing.2 (Or.inl ⟨h, rfl, rfl⟩)

theorem mem_listing_interface {slot : Slot} {kind : InterfaceKind} {i : InterfaceSummary}
    (hi : i ∈ slot.interfaces kind) : (i.oid, .interface kind) ∈ slot.listing :=
  mem_listing.2 (Or.inr ⟨kind, i, hi, rfl, rfl⟩)

/-- The ids in the listing are those of the summary that stand for objects. -/
theorem map_fst_listing {slot : Slot} (h : ∀ kind, ∀ i ∈ slot.interfaces kind, i.oid ≠ 0) :
    slot.listing.map Prod.fst = slot.summary.oids.filter fun oid => oid ≠ 0 := by
  have hlisted (kind : InterfaceKind) :
      (slot.listed kind).map Prod.fst = (slot.interfaces kind).map InterfaceSummary.oid := by
    rw [listed, List.map_map]
    rfl
  have hinterfaces : ((slot.netifs ++ slot.hostifs).map InterfaceSummary.oid).filter (· ≠ 0) =
      (slot.netifs ++ slot.hostifs).map InterfaceSummary.oid := by
    refine List.filter_eq_self.2 fun oid hoid => decide_eq_true ?_
    obtain ⟨i, hi, rfl⟩ := List.mem_map.1 hoid
    rcases List.mem_append.1 hi with hi | hi
    · exact h .network i hi
    · exact h .host i hi
  rw [listing, List.map_append, List.map_append, hlisted, hlisted, ← List.map_append]
  show _ = (slot.oid :: (slot.netifs ++ slot.hostifs).map InterfaceSummary.oid).filter _
  rw [List.filter_cons, hinterfaces]
  by_cases hoid : slot.oid = 0
  · simp [hoid, interfaces]
  · simp [hoid, interfaces]

/-- Attaching an interface lists one more object. -/
theorem listing_attach (slot : Slot) (kind : InterfaceKind) (i : InterfaceSummary) :
    (slot.attach kind i).listing.Perm (slot.listing ++ [(i.oid, .interface kind)]) := by
  have hlisted : ((slot.attach kind i).listed kind).Perm
      ((i.oid, .interface kind) :: slot.listed kind) := by
    cases kind <;> exact (insertInterface_perm i _).map fun j => (j.oid, ObjectType.interface _)
  refine List.Perm.trans ?_ (List.perm_append_singleton _ _).symm
  cases kind with
  | network =>
    refine ((hlisted.append_right _).append_left _).trans ?_
    exact List.perm_middle
  | host =>
    refine ((hlisted.append_left _).append_left _).trans ?_
    exact (List.perm_middle.append_left _).trans List.perm_middle

/-- Detaching takes an id out of the listing. -/
theorem listing_detach {slot : Slot} {oid : Nat} (h : slot.oid ≠ oid) :
    (slot.detach oid).listing = slot.listing.filter fun p => p.1 ≠ oid := by
  have hlisted (kind : InterfaceKind) : (slot.detach oid).listed kind =
      (slot.listed kind).filter fun p => p.1 ≠ oid := by
    cases kind <;> simp only [listed, List.filter_map] <;> rfl
  have hmodule : (if slot.oid = 0 then [] else [(slot.oid, ObjectType.module)]).filter
      (fun p => p.1 ≠ oid) = if slot.oid = 0 then [] else [(slot.oid, .module)] := by
    split <;> simp [h]
  rw [listing, listing, List.filter_append, List.filter_append, hmodule, hlisted, hlisted]
  rfl

/-- A module without interfaces is all that its slot lists. -/
theorem listing_of_empty {slot : Slot} (h : ∀ kind, slot.interfaces kind = []) :
    slot.listing = if slot.oid = 0 then [] else [(slot.oid, .module)] := by
  simp [listing, listed, h]

/-! ## What holds of a slot -/

/-- What holds of a slot at all times. -/
structure Sound (slot : Slot) : Prop where
  /-- There is no module without hardware. -/
  oid_of_absent : slot.present = false → slot.oid = 0
  /-- There are no interfaces without a module. -/
  interfaces_of_vacant : slot.oid = 0 → ∀ kind, slot.interfaces kind = []
  increasing : ∀ kind, (slot.interfaces kind).Pairwise fun i j => i.index < j.index
  lt_capacity : ∀ kind, ∀ i ∈ slot.interfaces kind, i.index < slot.capacity kind

theorem interfaces_attach_self (slot : Slot) (kind : InterfaceKind) (i : InterfaceSummary) :
    (slot.attach kind i).interfaces kind = insertInterface i (slot.interfaces kind) := by
  cases kind <;> rfl

theorem interfaces_attach_of_ne (slot : Slot) {kind other : InterfaceKind} (h : other ≠ kind)
    (i : InterfaceSummary) : (slot.attach kind i).interfaces other = slot.interfaces other := by
  cases kind <;> cases other
  · exact absurd rfl h
  · rfl
  · rfl
  · exact absurd rfl h

@[simp] theorem oid_attach (slot : Slot) (kind : InterfaceKind) (i : InterfaceSummary) :
    (slot.attach kind i).oid = slot.oid := by
  cases kind <;> rfl

@[simp] theorem present_attach (slot : Slot) (kind : InterfaceKind) (i : InterfaceSummary) :
    (slot.attach kind i).present = slot.present := by
  cases kind <;> rfl

@[simp] theorem capacity_attach (slot : Slot) (kind other : InterfaceKind) (i : InterfaceSummary) :
    (slot.attach kind i).capacity other = slot.capacity other := by
  cases kind <;> rfl

@[simp] theorem location_attach (slot : Slot) (kind : InterfaceKind) (i : InterfaceSummary) :
    (slot.attach kind i).location = slot.location := by
  cases kind <;> rfl

/-- A new index within the capacity may be attached to a created module. -/
theorem Sound.attach {slot : Slot} (h : slot.Sound) {kind : InterfaceKind} {i : InterfaceSummary}
    (hoid : slot.oid ≠ 0) (hlt : i.index < slot.capacity kind)
    (hnew : ∀ j ∈ slot.interfaces kind, j.index ≠ i.index) : (slot.attach kind i).Sound where
  oid_of_absent hp := by simpa using h.oid_of_absent (by simpa using hp)
  interfaces_of_vacant h0 := absurd (by simpa using h0) hoid
  increasing other := by
    rcases eq_or_ne other kind with rfl | hne
    · rw [interfaces_attach_self]
      exact pairwise_insertInterface (h.increasing other) hnew
    · rw [interfaces_attach_of_ne slot hne]
      exact h.increasing other
  lt_capacity other j hj := by
    rw [capacity_attach]
    rcases eq_or_ne other kind with rfl | hne
    · rw [interfaces_attach_self, (insertInterface_perm i _).mem_iff, List.mem_cons] at hj
      rcases hj with rfl | hj
      · exact hlt
      · exact h.lt_capacity other j hj
    · rw [interfaces_attach_of_ne slot hne] at hj
      exact h.lt_capacity other j hj

/-- A module may be put into hardware, and taken out of it, as long as there are no interfaces. -/
theorem Sound.withOid {slot : Slot} (h : slot.Sound) {oid : Nat}
    (hp : oid = 0 ∨ slot.present = true) (hempty : ∀ kind, slot.interfaces kind = []) :
    { slot with oid := oid }.Sound where
  oid_of_absent habsent := hp.resolve_right fun hpresent => by
    rw [hpresent] at habsent
    cases habsent
  interfaces_of_vacant _ := hempty
  increasing := h.increasing
  lt_capacity := h.lt_capacity

theorem interfaces_detach (slot : Slot) (oid : Nat) (kind : InterfaceKind) :
    (slot.detach oid).interfaces kind = (slot.interfaces kind).filter fun i => i.oid ≠ oid := by
  cases kind <;> rfl

@[simp] theorem capacity_detach (slot : Slot) (oid : Nat) (kind : InterfaceKind) :
    (slot.detach oid).capacity kind = slot.capacity kind := by
  cases kind <;> rfl

theorem Sound.detach {slot : Slot} (h : slot.Sound) (oid : Nat) : (slot.detach oid).Sound where
  oid_of_absent := h.oid_of_absent
  interfaces_of_vacant h0 kind := by
    rw [interfaces_detach, h.interfaces_of_vacant h0 kind]
    rfl
  increasing kind := by
    rw [interfaces_detach]
    exact (h.increasing kind).sublist List.filter_sublist
  lt_capacity kind i hi := by
    rw [interfaces_detach] at hi
    rw [capacity_detach]
    exact h.lt_capacity kind i (List.mem_of_mem_filter hi)

end Slot

end TransponderShell
