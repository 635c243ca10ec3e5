import TransponderShell.Proofs.Simulator.Created

/-!
# Removing undoes creating

What has just been created can be removed, and then the simulator is as it was before, except that
the ids that have been handed out stay handed out. A module comes with interfaces, which have to be
removed first; their order does not matter.

* `Simulator.without` is the state without some interfaces. That is what is left when they have been
  removed one after another (`removeAll_interfaces`). Taking out ids that are not in use changes
  nothing (`Sound.without_of_unused`), so without the new interface the state is the old one
  (`remove_attached`).
* A module is removed if it has no interfaces, and otherwise it stays (`remove_module`).
* `Simulator.Furnishes` says in full what a new module changes (`furnishes_of_create`). This is
  undone by removing its interfaces (`Furnishes.removeAll`) and then itself (`Furnishes.remove_eq`).

The result is `remove_undoes_create`.
-/

namespace TransponderShell

/-- Remove several objects, one after another. -/
def Daemon.removeAll {σ : Type} (d : Daemon σ) : List Nat → Request σ Unit
  | [] => return ()
  | oid :: rest => do
    d.remove oid
    d.removeAll rest

/-- The ids of the interfaces of a slot, those of the network side first. -/
def ModuleSummary.interfaceOids (m : ModuleSummary) : List Nat :=
  (m.netifs ++ m.hostifs).map InterfaceSummary.oid

/-! ## Slots without some of their interfaces -/

namespace Slot

/-- The slot without the interfaces of some ids. -/
def without (slot : Slot) (gone : List Nat) : Slot :=
  { slot with
    netifs := slot.netifs.filter fun i => i.oid ∉ gone
    hostifs := slot.hostifs.filter fun i => i.oid ∉ gone }

theorem detach_eq_without (slot : Slot) (oid : Nat) : slot.detach oid = slot.without [oid] := by
  simp [detach, without]

theorem without_without (slot : Slot) (gone more : List Nat) :
    (slot.without gone).without more = slot.without (gone ++ more) := by
  simp [without, List.filter_filter, Bool.and_comm]

theorem without_of_unused {slot : Slot} {gone : List Nat}
    (h : ∀ kind, ∀ i ∈ slot.interfaces kind, i.oid ∉ gone) : slot.without gone = slot := by
  have hkind (kind : InterfaceKind) :
      (slot.interfaces kind).filter (fun i => i.oid ∉ gone) = slot.interfaces kind :=
    List.filter_eq_self.2 fun i hi => decide_eq_true (h kind i hi)
  have hnetwork := hkind .network
  have hhost := hkind .host
  simp only [interfaces] at hnetwork hhost
  rw [without, hnetwork, hhost]

/-- An interface that is not kept leaves no trace in the order of the others. -/
theorem filter_insertInterface {p : InterfaceSummary → Bool} {i : InterfaceSummary}
    (hi : p i = false) (l : List InterfaceSummary) :
    (insertInterface i l).filter p = l.filter p := by
  induction l with
  | nil => simp [insertInterface, hi]
  | cons j rest ih =>
    rw [insertInterface]
    split
    · simp [hi]
    · simp only [List.filter_cons, ih]

theorem without_attach (slot : Slot) (kind : InterfaceKind) {i : InterfaceSummary}
    {gone : List Nat} (h : i.oid ∈ gone) :
    (slot.attach kind i).without gone = slot.without gone := by
  have hinsert (l : List InterfaceSummary) :
      (insertInterface i l).filter (fun j => j.oid ∉ gone) = l.filter fun j => j.oid ∉ gone :=
    filter_insertInterface (decide_eq_false (not_not_intro h)) l
  cases kind with
  | network => exact congrArg (fun l => { slot.without gone with netifs := l }) (hinsert _)
  | host => exact congrArg (fun l => { slot.without gone with hostifs := l }) (hinsert _)

theorem interfaceOids_without (slot : Slot) (gone : List Nat) :
    (slot.without gone).summary.interfaceOids =
      slot.summary.interfaceOids.filter fun oid => oid ∉ gone := by
  rw [ModuleSummary.interfaceOids, ModuleSummary.interfaceOids, List.filter_map,
    List.filter_append]
  rfl

theorem interfaces_of_interfaceOids {slot : Slot} (h : slot.summary.interfaceOids = []) :
    slot.netifs = [] ∧ slot.hostifs = [] := by
  simpa [ModuleSummary.interfaceOids, summary] using h

/-- A furnished slot lists the ids that come behind the module. -/
theorem interfaceOids_furnished (slot : Slot) (oid first : Nat) :
    (slot.furnished oid first).summary.interfaceOids =
      List.range' first (slot.netifCapacity + slot.hostifCapacity) := by
  rw [ModuleSummary.interfaceOids, summary, furnished, List.map_append, map_oid_numbered,
    map_oid_numbered, List.range'_append_1]

end Slot

namespace Simulator

variable {s s' : Simulator} {oid : Nat}

/-! ## Removing interfaces -/

/-- The state without the interfaces of some ids. -/
def without (s : Simulator) (gone : List Nat) : Simulator :=
  { s with
    slots := s.slots.map (Slot.without · gone)
    objects := s.objects.filter fun p => p.1 ∉ gone }

theorem without_cons (s : Simulator) (oid : Nat) (rest : List Nat) :
    (s.without [oid]).without rest = s.without (oid :: rest) := by
  simp [without, Slot.without_without, List.filter_filter, Bool.and_comm]

theorem without_nil (s : Simulator) : s.without [] = s := by
  simp [without, Slot.without]

theorem object?_without {gone : List Nat} (h : oid ∉ gone) :
    (s.without gone).object? oid = s.object? oid := by
  induction gone generalizing s with
  | nil => rw [without_nil]
  | cons other rest ih =>
    have hobjects : (s.without [other]).objects = s.objects.filter fun p => p.1 ≠ other := by
      simp [without]
    rw [← without_cons, ih (List.not_mem_of_not_mem_cons h), object?_of_filter hobjects,
      if_neg (List.ne_of_not_mem_cons h)]

/-- The slots have nothing of the ids that are not in use, and neither have the live objects. -/
theorem Sound.without_of_unused (h : s.Sound) {gone : List Nat}
    (hgone : ∀ oid ∈ gone, s.nextOid ≤ oid) : s.without gone = s := by
  have hslots : s.slots.map (Slot.without · gone) = s.slots := by
    refine (List.map_congr_left fun slot hslot => ?_).trans (List.map_id _)
    refine Slot.without_of_unused fun kind i hi hmem => ?_
    have hlt := h.lt_next _ (h.mem_directory hslot (Slot.mem_listing_interface hi))
    exact Nat.not_le.2 hlt (hgone _ hmem)
  have hobjects : (s.objects.filter fun p => p.1 ∉ gone) = s.objects := by
    refine List.filter_eq_self.2 fun p hp => decide_eq_true fun hmem => ?_
    exact Nat.not_le.2 (h.fresh p hp) (hgone _ hmem)
  rw [without, hslots, hobjects]

/-- An interface is taken out of its slot. -/
theorem remove_interface {object : LiveObject} {kind : InterfaceKind}
    (hlive : s.object? oid = some object) (htype : object.type = .interface kind) :
    daemon.remove oid s = (.ok (), s.without [oid]) := by
  have hdetach : s.without [oid] =
      { s with
        slots := s.slots.map (Slot.detach · oid)
        objects := s.objects.filter fun p => p.1 ≠ oid } := by
    simp [without, Slot.detach_eq_without]
  show remove oid s = _
  unfold remove
  rw [run_bind_ok (run_get s), hdetach]
  simp only [hlive, htype]
  rfl

/-- **Interfaces can be removed in any order**, and what is left is the state without them. -/
theorem removeAll_interfaces {oids : List Nat} (hnodup : oids.Nodup)
    (hlive : ∀ oid ∈ oids, ∃ object kind,
      s.object? oid = some object ∧ object.type = .interface kind) :
    daemon.removeAll oids s = (.ok (), s.without oids) := by
  induction oids generalizing s with
  | nil =>
    rw [without_nil]
    rfl
  | cons oid rest ih =>
    obtain ⟨hnotMem, hnodup⟩ := List.nodup_cons.1 hnodup
    obtain ⟨object, kind, hobject, htype⟩ := hlive oid (List.mem_cons_self ..)
    have hremove := remove_interface hobject htype
    have hrest : ∀ other ∈ rest, ∃ object kind,
        (s.without [oid]).object? other = some object ∧ object.type = .interface kind := by
      intro other hother
      obtain ⟨object, kind, hobject, htype⟩ := hlive other (List.mem_cons_of_mem _ hother)
      have hne : other ∉ [oid] := by
        rintro hmem
        exact hnotMem (List.mem_singleton.1 hmem ▸ hother)
      exact ⟨object, kind, (object?_without hne).trans hobject, htype⟩
    rw [Daemon.removeAll, run_bind_ok hremove, ih hnodup hrest, without_cons]

/-- A new interface is removed, and the state is the one before, but for the counter. -/
theorem remove_attached (h : s.Sound) {before behind : List Slot} {slot : Slot}
    (hslots : s.slots = before ++ slot :: behind) {object : LiveObject} {kind : InterfaceKind}
    (htype : object.type = .interface kind) (index : Nat)
    (hs' : s' = { s.withObject object with
      slots := before ++ slot.attach kind ⟨index, s.nextOid⟩ :: behind }) :
    daemon.remove s.nextOid s' = (.ok (), { s with nextOid := s'.nextOid }) := by
  have hlive : s'.object? s.nextOid = some object := by
    rw [hs']
    exact object?_withObject h.fresh object
  have hunused := h.without_of_unused (List.forall_mem_singleton.2 (Nat.le_refl s.nextOid))
  have hslots' : s'.slots.map (Slot.without · [s.nextOid]) = s.slots := by
    have hold : s.slots.map (Slot.without · [s.nextOid]) = s.slots := congrArg slots hunused
    have hattach := Slot.without_attach slot kind (i := ⟨index, s.nextOid⟩)
      (List.mem_singleton_self s.nextOid)
    rw [hs', ← hold, hslots]
    simp only [List.map_append, List.map_cons, hattach]
  have hobjects' : (s'.objects.filter fun p => p.1 ∉ [s.nextOid]) = s.objects := by
    have hold : (s.objects.filter fun p => p.1 ∉ [s.nextOid]) = s.objects :=
      congrArg objects hunused
    simp only [hs', withObject, List.filter_append, hold]
    simp
  rw [remove_interface hlive htype, without, hslots', hobjects', hs']
  rfl

/-! ## Removing modules -/

/-- **A module is removed if it has no interfaces**, and otherwise it stays. -/
theorem remove_module {before behind : List Slot} {slot : Slot} {object : LiveObject}
    (hlive : s.object? oid = some object) (htype : object.type = .module)
    (hslots : s.slots = before ++ slot :: behind) (hbefore : ∀ b ∈ before, b.oid ≠ oid)
    (hoid : slot.oid = oid) :
    daemon.remove oid s =
      if slot.summary.interfaceOids = [] then
        (.ok (), { s with
          slots := before ++ { slot with oid := 0 } :: behind
          objects := s.objects.filter fun p => p.1 ≠ oid })
      else (.error (Status.invalidParameter.refusal
        ("module " ++ Oid.render oid ++ " still has interfaces")), s) := by
  have hfind : s.slots.find? (fun other => other.oid = oid) = some slot := by
    rw [hslots, List.find?_append, List.find?_eq_none.2 fun b hb => by simp [hbefore b hb]]
    simp [hoid]
  have hslots' := slots_updateSlotOf ({ · with oid := 0 }) hslots hbefore hoid
  have hsome : (!slot.netifs.isEmpty || !slot.hostifs.isEmpty) = true ↔
      slot.summary.interfaceOids ≠ [] := by
    simp [ModuleSummary.interfaceOids, Slot.summary, imp_iff_not_or]
  show remove oid s = _
  unfold remove
  rw [run_bind_ok (run_get s)]
  simp only [hlive, htype]
  rw [run_bind_ok (run_get s)]
  by_cases hnone : slot.summary.interfaceOids = []
  · rw [if_pos hnone, ← hslots']
    simp only [hfind, if_neg (mt hsome.1 (not_not_intro hnone))]
    rfl
  · rw [if_neg hnone]
    simp only [hfind, if_pos (hsome.2 hnone)]
    rfl

/-- All that a new module changes. There is its object, its slot is furnished, and there are the
objects of the interfaces that the slot lists. -/
structure Furnishes (s s' : Simulator) (before : List Slot) (slot : Slot) (behind : List Slot) :
    Prop where
  slots : s.slots = before ++ slot :: behind
  vacant : slot.oid = 0
  furnished : s'.slots = before ++ slot.furnished s.nextOid (s.nextOid + 1) :: behind
  objects : ∃ new, s'.objects = s.objects ++ new ∧ ∀ p ∈ new, p.1 = s.nextOid ∨
    p.1 ∈ (slot.furnished s.nextOid (s.nextOid + 1)).summary.interfaceOids
  rest : OnlyObjects s s'

/-- Creating a module changes no more than that. -/
theorem furnishes_of_create (hs : s.Sound) {pairs : List (Text × Text)} {moduleOid : Nat}
    (hcreate : create .module pairs moduleOid s = (.ok oid, s')) :
    oid = s.nextOid ∧ ∃ before slot behind, Furnishes s s' before slot behind := by
  obtain ⟨slot, hcreatable⟩ := creatable_of_create hs hcreate
  obtain ⟨before, behind, hslots⟩ := List.append_of_mem hcreatable.listed
  obtain ⟨s₁, hmade, hfurnished, hobjects⟩ :=
    create_module_of_slots hs hslots hcreatable moduleOid
  cases hmade.symm.trans hcreate
  have hrest := create_onlyObjects .module pairs moduleOid s
  rw [hmade] at hrest
  refine ⟨rfl, before, slot, behind, hslots, hcreatable.vacant, hfurnished, ?_, hrest⟩
  rw [List.append_assoc, List.append_assoc] at hobjects
  refine ⟨_, hobjects, fun p hp => ?_⟩
  have hlisted (kind : InterfaceKind) {l : List InterfaceSummary}
      (hp : p ∈ s.catalogue.plainInterfaces kind l) : p.1 ∈ l.map InterfaceSummary.oid := by
    obtain ⟨i, hi, rfl⟩ := List.mem_map.1 hp
    exact List.mem_map_of_mem hi
  rw [ModuleSummary.interfaceOids, List.map_append, List.mem_append]
  rcases List.mem_append.1 hp with hp | hp
  · exact Or.inl (congrArg Prod.fst (List.mem_singleton.1 hp))
  · rcases List.mem_append.1 hp with hp | hp
    · exact Or.inr (Or.inl (hlisted .network hp))
    · exact Or.inr (Or.inr (hlisted .host hp))

namespace Furnishes

variable {before behind : List Slot} {slot : Slot}

/-- The new module is listed once. -/
theorem eq_of_oid (h : Furnishes s s' before slot behind) (hs : s.Sound) {m : ModuleSummary}
    (hm : m ∈ s'.slots.map Slot.summary) (hoid : m.oid = s.nextOid) :
    m = (slot.furnished s.nextOid (s.nextOid + 1)).summary := by
  obtain ⟨other, hother, rfl⟩ := List.mem_map.1 hm
  rw [h.furnished, List.mem_append, List.mem_cons] at hother
  rcases hother with hother | rfl | hother
  · exact absurd hoid (hs.oid_ne_next (by simp [h.slots, hother]))
  · rfl
  · exact absurd hoid (hs.oid_ne_next (by simp [h.slots, hother]))

variable {removed left : List Nat}

/-- Every interface of the new module has an id of its own. -/
theorem nodup (hperm : (removed ++ left).Perm
      (slot.furnished oid (oid + 1)).summary.interfaceOids) : (removed ++ left).Nodup := by
  rw [hperm.nodup_iff, Slot.interfaceOids_furnished]
  exact List.nodup_range'

/-- The interfaces of the new module are removed in any order, all of them or some. -/
theorem removeAll (h : Furnishes s s' before slot behind) (hs' : s'.Sound)
    (hperm : (removed ++ left).Perm
      (slot.furnished s.nextOid (s.nextOid + 1)).summary.interfaceOids) :
    daemon.removeAll removed s' = (.ok (), s'.without removed) := by
  have hlisted : slot.furnished s.nextOid (s.nextOid + 1) ∈ s'.slots := by simp [h.furnished]
  refine removeAll_interfaces (nodup hperm).of_append_left fun oid hoid => ?_
  obtain ⟨i, hi, rfl⟩ := List.mem_map.1 (hperm.mem_iff.1 (List.mem_append_left _ hoid))
  obtain ⟨kind, hi⟩ : ∃ kind, i ∈ (slot.furnished s.nextOid (s.nextOid + 1)).interfaces kind := by
    rcases List.mem_append.1 hi with hi | hi
    · exact ⟨.network, hi⟩
    · exact ⟨.host, hi⟩
  obtain ⟨object, hobject, htype⟩ :=
    hs'.exists_object (hs'.mem_directory hlisted (Slot.mem_listing_interface hi))
  exact ⟨object, kind, hobject, htype⟩

/-- Those that have not been removed are left. -/
theorem left_perm (hperm : (removed ++ left).Perm
      (slot.furnished oid (oid + 1)).summary.interfaceOids) :
    ((slot.furnished oid (oid + 1)).without removed).summary.interfaceOids.Perm left := by
  have hdisjoint := (List.nodup_append.1 (nodup hperm)).2.2
  have hremoved : removed.filter (fun id => id ∉ removed) = [] := by
    simp [List.filter_eq_nil_iff]
  have hleft : left.filter (fun id => id ∉ removed) = left := by
    refine List.filter_eq_self.2 fun id hid => decide_eq_true fun hmem => ?_
    exact hdisjoint id hmem id hid rfl
  have hfilter := hperm.symm.filter fun id => id ∉ removed
  rwa [List.filter_append, hremoved, hleft, List.nil_append,
    ← Slot.interfaceOids_without] at hfilter

/-- With the module taken out as well, the slots are those from before. -/
theorem slots_eq (h : Furnishes s s' before slot behind) (hs : s.Sound)
    (hnew : ∀ id ∈ removed, s.nextOid ≤ id)
    (hnone : ((slot.furnished oid (oid + 1)).without removed).summary.interfaceOids = []) :
    before.map (Slot.without · removed) ++
      { (slot.furnished oid (oid + 1)).without removed with oid := 0 } ::
        behind.map (Slot.without · removed) = s.slots := by
  have hkept : s.slots.map (Slot.without · removed) = s.slots :=
    congrArg Simulator.slots (hs.without_of_unused hnew)
  have hempty := (hs.slot slot (by simp [h.slots])).interfaces_of_vacant h.vacant
  have hslot : { (slot.furnished oid (oid + 1)).without removed with oid := 0 } =
      slot.without removed := by
    obtain ⟨hnetifs, hhostifs⟩ := Slot.interfaces_of_interfaceOids hnone
    have hnetwork : slot.netifs = [] := hempty .network
    have hhost : slot.hostifs = [] := hempty .host
    simp only [hnetifs, hhostifs]
    simp [Slot.without, Slot.furnished, hnetwork, hhost, h.vacant]
  rw [hslot, ← hkept, h.slots, List.map_append, List.map_cons]

/-- With the module let go as well, the live objects are those from before. -/
theorem objects_eq (h : Furnishes s s' before slot behind) (hs : s.Sound)
    (hnew : ∀ id ∈ removed, s.nextOid ≤ id)
    (hall : ∀ id ∈ (slot.furnished s.nextOid (s.nextOid + 1)).summary.interfaceOids,
      id ∈ removed) :
    (s'.without removed).objects.filter (fun p => p.1 ≠ s.nextOid) = s.objects := by
  obtain ⟨new, hobjects, hadded⟩ := h.objects
  have hkept : (s.objects.filter fun p => p.1 ∉ s.nextOid :: removed) = s.objects :=
    congrArg Simulator.objects (hs.without_of_unused (by simpa using hnew))
  have hgone : (new.filter fun p => p.1 ∉ s.nextOid :: removed) = [] := by
    refine List.filter_eq_nil_iff.2 fun p hp => ?_
    rcases hadded p hp with hmodule | hinterface
    · simp [hmodule]
    · simp [hall _ hinterface]
  have hfilter : (s'.without removed).objects.filter (fun p => p.1 ≠ s.nextOid) =
      s'.objects.filter fun p => p.1 ∉ s.nextOid :: removed := by
    simp [without, List.filter_filter]
  rw [hfilter, hobjects, List.filter_append, hkept, hgone, List.append_nil]

/-- **Without its interfaces the new module is removed**, and the state is the one before, but for
the counter. As long as an interface is left, the module stays. -/
theorem remove_eq (h : Furnishes s s' before slot behind) (hs : s.Sound) (hs' : s'.Sound)
    (hperm : (removed ++ left).Perm
      (slot.furnished s.nextOid (s.nextOid + 1)).summary.interfaceOids) :
    daemon.remove s.nextOid (s'.without removed) =
      if left = [] then (.ok (), { s with nextOid := s'.nextOid })
      else (.error (Status.invalidParameter.refusal
        ("module " ++ Oid.render s.nextOid ++ " still has interfaces")), s'.without removed) := by
  have hnew : ∀ oid ∈ removed ++ left, s.nextOid < oid := by
    intro oid hoid
    rw [hperm.mem_iff, Slot.interfaceOids_furnished] at hoid
    exact (List.mem_range'_1.1 hoid).1
  have hremoved : s.nextOid ∉ removed := fun hmem =>
    Nat.lt_irrefl _ (hnew _ (List.mem_append_left _ hmem))
  obtain ⟨object, hobject, htype⟩ : ∃ object, (s'.without removed).object? s.nextOid = some object ∧
      object.type = .module := by
    rw [object?_without hremoved]
    have hlisted : slot.furnished s.nextOid (s.nextOid + 1) ∈ s'.slots := by simp [h.furnished]
    exact hs'.exists_object (hs'.mem_directory hlisted
      (Slot.mem_listing_module (Nat.ne_of_gt hs.next_pos)))
  have hslots : (s'.without removed).slots = before.map (Slot.without · removed) ++
      (slot.furnished s.nextOid (s.nextOid + 1)).without removed ::
        behind.map (Slot.without · removed) := by
    simp [without, h.furnished]
  have hother : ∀ b ∈ before.map (Slot.without · removed), b.oid ≠ s.nextOid := by
    intro b hb
    obtain ⟨old, hold, rfl⟩ := List.mem_map.1 hb
    show old.oid ≠ s.nextOid
    exact hs.oid_ne_next (by simp [h.slots, hold])
  have hleft := left_perm hperm
  rw [remove_module hobject htype hslots hother rfl]
  by_cases hnone : left = []
  · subst hnone
    have hslots := h.slots_eq hs (fun id hid => Nat.le_of_lt (hnew id (by simpa using hid)))
      hleft.eq_nil
    have hobjects := h.objects_eq hs (fun id hid => Nat.le_of_lt (hnew id (by simpa using hid)))
      fun id hid => by simpa using hperm.mem_iff.2 hid
    rw [if_pos hleft.eq_nil, if_pos rfl, hslots, hobjects, h.rest.eq]
    rfl
  · have hsome : ((slot.furnished s.nextOid (s.nextOid + 1)).without
        removed).summary.interfaceOids ≠ [] := by
      intro hempty
      rw [hempty] at hleft
      exact hnone (List.nil_perm.1 hleft)
    rw [if_neg hsome, if_neg hnone]

end Furnishes

/-- **Removing undoes creating**, after every run. An interface that has just been created is
removed, and the simulator is as it was, but for the counter of ids. For a module this holds once
the interfaces that it came with have been removed, in any order; until then it stays. -/
theorem remove_undoes_create {s₀ s : Simulator} (h₀ : Initial s₀) (h : Reaches s₀ s)
    (pairs : List (Text × Text)) (moduleOid : Nat) :
    (∀ kind oid s', daemon.create (.interface kind) pairs moduleOid s = (.ok oid, s') →
      daemon.remove oid s' = (.ok (), { s with nextOid := s'.nextOid })) ∧
    ∀ oid s', daemon.create .module pairs moduleOid s = (.ok oid, s') →
      ∃ slots, daemon.list s' = (.ok slots, s') ∧ (∃ m ∈ slots, m.oid = oid) ∧
        ∀ m ∈ slots, m.oid = oid → ∀ removed left, (removed ++ left).Perm m.interfaceOids →
          ∃ s'', daemon.removeAll removed s' = (.ok (), s'') ∧
            (left = [] → daemon.remove oid s'' = (.ok (), { s with nextOid := s'.nextOid })) ∧
            (left ≠ [] → daemon.remove oid s'' = (.error (Status.invalidParameter.refusal
              ("module " ++ Oid.render oid ++ " still has interfaces")), s'')) := by
  have hs : s.Sound := (h.evolves h₀.sound).1
  constructor
  · intro kind oid s' hcreate
    obtain ⟨slot, index, hattachable⟩ := attachable_of_create hs hcreate
    have hattach := (create_interface_eq hattachable.key moduleOid s).symm.trans hcreate
    rcases attachInterface_makes kind moduleOid index pairs hs.fresh with
      ⟨e, he⟩ | ⟨before, slot, behind, hslots, -, -, -, -, -, hmade⟩
    · cases he.symm.trans hattach
    · cases hmade.symm.trans hattach
      exact remove_attached hs hslots rfl index rfl
  · intro oid s' hcreate
    have hmodule : create .module pairs moduleOid s = (.ok oid, s') := hcreate
    have hevolves := create_evolves .module pairs moduleOid s hs
    rw [hmodule] at hevolves
    have hs' : s'.Sound := hevolves.1
    obtain ⟨rfl, before, slot, behind, hfurnishes⟩ := furnishes_of_create hs hmodule
    refine ⟨_, rfl, ⟨(slot.furnished s.nextOid (s.nextOid + 1)).summary, ?_, rfl⟩, ?_⟩
    · exact List.mem_map_of_mem (by simp [hfurnishes.furnished])
    intro m hm hoid removed left hperm
    rw [hfurnishes.eq_of_oid hs hm hoid] at hperm
    have hremove := hfurnishes.remove_eq hs hs' hperm
    refine ⟨_, hfurnishes.removeAll hs' hperm, fun hnone => ?_, fun hsome => ?_⟩
    · rw [hremove, if_pos hnone]
    · rw [hremove, if_neg hsome]

/-- In the seed, the network interface of module 1 is removed and made anew, and removed again. The
module of slot 2 is created, and removed behind its interfaces, the last one first. -/
theorem remove_undoes_create_seed :
    (∃ s', daemon.create (.interface .network) [(indexName, "0")] 1 (remove 2 seed).2 =
        (.ok 5, s') ∧
      daemon.remove 5 s' = (.ok (), { (remove 2 seed).2 with nextOid := 6 })) ∧
    ∃ s' s'', daemon.create .module [(locationName, "2")] 0 seed = (.ok 5, s') ∧
      daemon.remove 5 s' = (.error (.status 0x5 "module 0x5 still has interfaces"), s') ∧
      daemon.removeAll [8, 6, 7] s' = (.ok (), s'') ∧
      daemon.remove 5 s'' = (.ok (), { seed with nextOid := 9 }) := by
  constructor
  · have hremove : Reaches seed (remove 2 seed).2 :=
      Relation.ReflTransGen.single (Step.call (.remove 2 seed))
    obtain ⟨hinterface, -⟩ := remove_undoes_create .seed hremove [(indexName, "0")] 1
    exact ⟨_, rfl, hinterface .network 5 _ rfl⟩
  · obtain ⟨-, hmodule⟩ := remove_undoes_create .seed .refl [(locationName, "2")] 0
    obtain ⟨slots, hlist, -, hlisted⟩ := hmodule 5 _ rfl
    obtain rfl : _ = slots := Except.ok.inj (congrArg Prod.fst hlist)
    have hm : (⟨"2", true, 5, [⟨0, 6⟩], [⟨0, 7⟩, ⟨1, 8⟩]⟩ : ModuleSummary) ∈
        ((create .module [(locationName, "2")] 0 seed).2.slots.map Slot.summary) := by
      decide +kernel
    have hall := hlisted _ hm rfl
    obtain ⟨s₁, hrun₁, -, hrefused⟩ := hall [] [6, 7, 8] (by decide)
    obtain ⟨s₂, hrun₂, hremoved, -⟩ := hall [8, 6, 7] [] (by decide)
    cases hrun₁
    exact ⟨_, s₂, rfl, hrefused (by decide), hrun₂, hremoved rfl⟩

end Simulator

end TransponderShell
