import TransponderShell.Proofs.Simulator.Constants

/-!
# Which objects can be created, and what they are

An interface can be created with the index that the first pair for it gives (`Attachable`), and a
module at the location that the first pair for it gives (`Creatable`). Pairs for these keys only say
where, and those for other keys are checked. A new object has the values that its slot sets, for
every other attribute the value of the last pair that names it, and where there is none what is
declared (`Catalogue.Begins`).

`create_interface_of_attachable` and `create_module_of_slots` make the objects, and
`attachable_of_create` and `creatable_of_create` say that nothing else is granted. A new module
comes with all its interfaces (`Equips`), which the loops over their indices add one after another
(`attachAll_objects`). The result is `created_of_reaches`.
-/

namespace TransponderShell

/-! ## The values of a new object -/

namespace Catalogue

/-- An object has the values that it begins with: those of `imposed`, and for every other declared
attribute the value of the last pair that names it, else the default, else what its usage begins
with. -/
structure Begins (c : Catalogue) (type : ObjectType) (pairs imposed : List (Text × Text))
    (object : LiveObject) : Prop where
  type_eq : object.type = type
  of_imposed : ∀ pair ∈ imposed, object.values.get? pair.1 = some pair.2
  of_declared : ∀ d ∈ c.of type, d.name ∉ imposed.map Prod.fst → object.values.get? d.name =
    some ((pairs.reverse.lookup d.name).getD (d.initial.getD (Usage.initial d.usage)))

/-- Under distinct names an attribute begins with the value that is declared for it. -/
theorem get?_initialValues {c : Catalogue} (hc : c.Distinct) {type : ObjectType} {d : Declaration}
    (hd : d ∈ c.of type) : (c.initialValues type).get? d.name = some d.value := by
  have hmem : (d.name, d.value) ∈ (c.of type).map fun d => (d.name, d.value) :=
    List.mem_map_of_mem hd
  refine Values.get?_setAll_of_mem ?_ hmem []
  rw [List.map_map]
  exact hc type

/-- **What is made begins with these values.** The pairs for a key that the slot sets do not
matter. -/
theorem begins_make {c : Catalogue} (hc : c.Distinct) (type : ObjectType) {key : Text}
    (pairs : List (Text × Text)) {imposed : List (Text × Text)}
    (hnames : (imposed.map Prod.fst).Nodup) (hkey : key ∈ imposed.map Prod.fst) :
    c.Begins type pairs imposed (c.make type (pairs.filter fun p => p.1 ≠ key) imposed) where
  type_eq := rfl
  of_imposed pair hpair := Values.get?_setAll_of_mem hnames hpair _
  of_declared d hd hname := by
    have hother : d.name ≠ key := by
      rintro rfl
      exact hname hkey
    have hnone : Values.get? imposed.reverse d.name = none := by
      refine List.lookup_eq_none_iff.2 fun p hp => ?_
      have hne : d.name ≠ p.1 := by
        intro heq
        exact hname (heq ▸ List.mem_map_of_mem (List.mem_reverse.1 hp))
      simpa using hne
    rw [make, Values.get?_setAll, hnone, Option.none_or, Values.get?_setAll,
      get?_initialValues hc hd, Values.get?, ← List.filter_reverse, lookup_filter_ne,
      if_neg hother]
    cases pairs.reverse.lookup d.name <;> rfl

/-- A new interface without values of its own. -/
def plainInterface (c : Catalogue) (kind : InterfaceKind) (index : Nat) : LiveObject :=
  c.make (.interface kind) [] [(Simulator.indexName, Numeral.decimal index)]

theorem begins_plainInterface {c : Catalogue} (hc : c.Distinct) (kind : InterfaceKind)
    (index : Nat) : c.Begins (.interface kind) []
      [(Simulator.indexName, Numeral.decimal index)] (c.plainInterface kind index) :=
  begins_make hc (.interface kind) [] (List.nodup_singleton _)
    (List.mem_singleton_self Simulator.indexName)

/-- The objects of new interfaces without values of their own. -/
def plainInterfaces (c : Catalogue) (kind : InterfaceKind) (l : List InterfaceSummary) :
    List (Nat × LiveObject) :=
  l.map fun i => (i.oid, c.plainInterface kind i.index)

end Catalogue

namespace Simulator

/-! ## Interfaces -/

/-- An interface can be created: the first pair for its index is a number, the module has been
created and has room for it but no interface with this index, and the pairs for other keys name
attributes and have values that these admit. -/
structure Attachable (s : Simulator) (kind : InterfaceKind) (pairs : List (Text × Text))
    (moduleOid : Nat) (slot : Slot) (index : Nat) : Prop where
  key : (pairs.lookup indexName).bind Numeral.read32? = some index
  listed : slot ∈ s.slots
  oid_eq : slot.oid = moduleOid
  created : moduleOid ≠ 0
  room : index < slot.capacity kind
  free : ∀ i ∈ slot.interfaces kind, i.index ≠ index
  admits : s.catalogue.Admits (.interface kind) (pairs.filter fun p => p.1 ≠ indexName)

variable {s s' : Simulator} {kind : InterfaceKind} {pairs : List (Text × Text)}
  {moduleOid oid index : Nat} {slot : Slot}

/-- **What can be created is created**, an interface. -/
theorem create_interface_of_attachable (hs : s.Sound)
    (h : s.Attachable kind pairs moduleOid slot index) :
    ∃ s', create (.interface kind) pairs moduleOid s = (.ok s.nextOid, s') ∧
      s'.object? s.nextOid = some (s.catalogue.make (.interface kind)
        (pairs.filter fun p => p.1 ≠ indexName) [(indexName, Numeral.decimal index)]) := by
  obtain ⟨before, behind, hslots⟩ := List.append_of_mem h.listed
  obtain rfl := h.oid_eq
  have hrun := attachInterface_of_admits hs.fresh hslots (hs.oid_ne hslots h.created) h.created
    h.room h.free h.admits
  exact ⟨_, (create_interface_eq h.key ..).trans hrun, object?_withObject hs.fresh _⟩

/-- **Nothing else is created**, no interface. -/
theorem attachable_of_create (hs : s.Sound)
    (hcreate : create (.interface kind) pairs moduleOid s = (.ok oid, s')) :
    ∃ slot index, s.Attachable kind pairs moduleOid slot index := by
  cases hkey : (pairs.lookup indexName).bind Numeral.read32? with
  | none =>
    simp only [create, hkey] at hcreate
    cases hcreate
  | some index =>
    rw [create_interface_eq hkey] at hcreate
    rcases attachInterface_makes kind moduleOid index pairs hs.fresh with
      ⟨e, he⟩ | ⟨before, slot, behind, hslots, hoid, hcreated, hroom, hfree, hadmits, -⟩
    · rw [he] at hcreate
      cases hcreate
    · exact ⟨slot, index, hkey, by simp [hslots], hoid, hcreated, hroom, hfree, hadmits⟩

/-! ## The interfaces of a new module -/

/-- Interfaces that are made one after another are added at the end, with the ids that come next. -/
theorem attachAll_objects {first made count : Nat} (hfresh : s.Fresh)
    (hnext : s.nextOid = first + made)
    (hrun : attachAll kind moduleOid (List.range' made count) s = (.ok (), s')) :
    s'.Fresh ∧ s'.catalogue = s.catalogue ∧ s'.nextOid = first + made + count ∧
      s'.objects = s.objects ++ s.catalogue.plainInterfaces kind
        ((List.range' made count).map fun index => ⟨index, first + index⟩) := by
  induction count generalizing s made with
  | zero =>
    cases hrun
    exact ⟨hfresh, rfl, hnext, (List.append_nil _).symm⟩
  | succ count ih =>
    rw [List.range'_succ, attachAll] at hrun
    rcases attachInterface_makes kind moduleOid made [] hfresh with
      ⟨e, he⟩ | ⟨before, slot, behind, -, -, -, -, -, -, hmade⟩
    · rw [run_bind_error he] at hrun
      cases hrun
    rw [run_bind_ok hmade] at hrun
    generalize hs₁ : ({ s.withObject _ with slots := _ } : Simulator) = s₁ at hrun
    have hfresh₁ : s₁.Fresh := by
      rw [← hs₁]
      exact hfresh.withObject _
    have hnext₁ : s₁.nextOid = first + (made + 1) := by
      rw [← hs₁]
      exact congrArg Nat.succ hnext
    obtain ⟨hfresh', hcatalogue, hnext', hobjects⟩ := ih hfresh₁ hnext₁ hrun
    rw [← hs₁] at hcatalogue hobjects
    refine ⟨hfresh', hcatalogue, by omega, hobjects.trans ?_⟩
    rw [List.range'_succ, List.map_cons, ← hnext]
    exact List.append_assoc ..

theorem attachAll_range_objects {count : Nat} (hfresh : s.Fresh)
    (hrun : attachAll kind moduleOid (List.range count) s = (.ok (), s')) :
    s'.Fresh ∧ s'.catalogue = s.catalogue ∧ s'.nextOid = s.nextOid + count ∧
      s'.objects = s.objects ++ s.catalogue.plainInterfaces kind (numbered s.nextOid count) := by
  rw [List.range_eq_range'] at hrun
  obtain ⟨hfresh', hcatalogue, hnext, hobjects⟩ := attachAll_objects hfresh rfl hrun
  refine ⟨hfresh', hcatalogue, hnext, ?_⟩
  rw [hobjects, numbered, List.range_eq_range']

/-- The interfaces that come with a module are added behind it, those of the network side first. -/
theorem attachSides_objects (hfresh : s.Fresh)
    (hrun : attachSides slot moduleOid s = (.ok oid, s')) :
    s'.objects = s.objects ++
      s.catalogue.plainInterfaces .network (numbered s.nextOid slot.netifCapacity) ++
      s.catalogue.plainInterfaces .host
        (numbered (s.nextOid + slot.netifCapacity) slot.hostifCapacity) := by
  unfold attachSides at hrun
  rcases hnetwork : attachAll .network moduleOid (List.range slot.netifCapacity) s with
    ⟨e | ⟨⟩, s₁⟩
  · rw [run_bind_error hnetwork] at hrun
    cases hrun
  rw [run_bind_ok hnetwork] at hrun
  rcases hhost : attachAll .host moduleOid (List.range slot.hostifCapacity) s₁ with ⟨e | ⟨⟩, s₂⟩
  · rw [run_bind_error hhost] at hrun
    cases hrun
  rw [run_bind_ok hhost] at hrun
  cases hrun
  obtain ⟨hfresh₁, hcatalogue₁, hnext₁, hobjects₁⟩ := attachAll_range_objects hfresh hnetwork
  obtain ⟨-, -, -, hobjects₂⟩ := attachAll_range_objects hfresh₁ hhost
  rw [hobjects₂, hobjects₁, hcatalogue₁, hnext₁]

/-- A slot has a new module, with a new interface for every index that there is room for, and no
other interface. -/
structure Equips (s s' : Simulator) (slot : Slot) (oid : Nat) (slot' : Slot) : Prop where
  listed : slot' ∈ s'.slots
  hardware : slot'.hardware = slot.hardware
  oid_eq : slot'.oid = oid
  indices : ∀ kind,
    (slot'.interfaces kind).map InterfaceSummary.index = List.range (slot.capacity kind)
  begins : ∀ kind, ∀ i ∈ slot'.interfaces kind, ∃ object, s'.object? i.oid = some object ∧
    s.catalogue.Begins (.interface kind) [] [(indexName, Numeral.decimal i.index)] object

/-! ## Modules -/

/-- A module can be created: the first pair for its location names a slot with hardware and without
a module, and the pairs for other keys name attributes and have values that these admit. -/
structure Creatable (s : Simulator) (pairs : List (Text × Text)) (slot : Slot) : Prop where
  key : pairs.lookup locationName = some slot.location
  listed : slot ∈ s.slots
  present : slot.present = true
  vacant : slot.oid = 0
  admits : s.catalogue.Admits .module (pairs.filter fun p => p.1 ≠ locationName)

/-- **What can be created is created**, a module. Its slot is furnished, and the others stay as they
are. -/
theorem create_module_of_slots (hs : s.Sound) {before behind : List Slot}
    (hslots : s.slots = before ++ slot :: behind) (h : s.Creatable pairs slot) (moduleOid : Nat) :
    ∃ s', create .module pairs moduleOid s = (.ok s.nextOid, s') ∧
      s'.slots = before ++ slot.furnished s.nextOid (s.nextOid + 1) :: behind ∧
      s'.objects = s.objects ++
        [(s.nextOid, s.catalogue.make .module (pairs.filter fun p => p.1 ≠ locationName)
          slot.imposed)] ++
        s.catalogue.plainInterfaces .network (numbered (s.nextOid + 1) slot.netifCapacity) ++
        s.catalogue.plainInterfaces .host
          (numbered (s.nextOid + 1 + slot.netifCapacity) slot.hostifCapacity) := by
  have hlocation := hs.location_ne hslots
  have hspawn := spawn_of_admits h.admits
  have hempty := (hs.slot slot h.listed).interfaces_of_vacant h.vacant
  have hother : ∀ b ∈ before, b.oid ≠ s.nextOid := by
    intro b hb
    exact hs.oid_ne_next (by simp [hslots, hb])
  obtain ⟨s', hmodule, hslots', -⟩ := createModule_of_spawned hspawn hslots rfl hlocation hother
    (Nat.ne_of_gt hs.next_pos) hempty
  refine ⟨s', ?_, hslots', ?_⟩
  · rw [create_module_eq hslots hlocation h.vacant h.present h.key, hmodule]
  · rw [createModule_of_admits hs.fresh h.admits] at hmodule
    generalize hmade : s.catalogue.make .module _ slot.imposed = object at hmodule ⊢
    generalize hs₂ : (s.withObject object).updateSlotAt _ _ = s₂ at hmodule
    have hfresh₂ : s₂.Fresh := hs₂ ▸ hs.fresh.withObject object
    rw [attachSides_objects hfresh₂ hmodule, ← hs₂]
    rfl

theorem create_module_of_creatable (hs : s.Sound) (h : s.Creatable pairs slot) (moduleOid : Nat) :
    ∃ s', create .module pairs moduleOid s = (.ok s.nextOid, s') ∧
      slot.furnished s.nextOid (s.nextOid + 1) ∈ s'.slots ∧
      s'.objects = s.objects ++
        [(s.nextOid, s.catalogue.make .module (pairs.filter fun p => p.1 ≠ locationName)
          slot.imposed)] ++
        s.catalogue.plainInterfaces .network (numbered (s.nextOid + 1) slot.netifCapacity) ++
        s.catalogue.plainInterfaces .host
          (numbered (s.nextOid + 1 + slot.netifCapacity) slot.hostifCapacity) := by
  obtain ⟨before, behind, hslots⟩ := List.append_of_mem h.listed
  obtain ⟨s', hcreate, hslots', hobjects⟩ := create_module_of_slots hs hslots h moduleOid
  exact ⟨s', hcreate, by simp [hslots'], hobjects⟩

/-- **Nothing else is created**, no module. -/
theorem creatable_of_create (hs : s.Sound)
    (hcreate : create .module pairs moduleOid s = (.ok oid, s')) :
    ∃ slot, s.Creatable pairs slot := by
  rcases create_module_cases pairs moduleOid s with
    ⟨e, he⟩ | ⟨before, slot, behind, hslots, -, hoid, hpresent, hkey, hmodule⟩
  · rw [he] at hcreate
    cases hcreate
  rw [hmodule] at hcreate
  rcases createModule_makes slot pairs hs.fresh with ⟨e, he⟩ | ⟨hadmits, -⟩
  · rw [he] at hcreate
    cases hcreate
  · exact ⟨slot, hkey, by simp [hslots], hpresent, hoid, hadmits⟩

/-- The interfaces of a furnished slot are as they are made. -/
theorem equips_furnished (hc : s.catalogue.Distinct) (hs' : s'.Sound)
    {old : List (Nat × LiveObject)} (hslot : slot.furnished oid (oid + 1) ∈ s'.slots)
    (hobjects : s'.objects = old ++
      s.catalogue.plainInterfaces .network (numbered (oid + 1) slot.netifCapacity) ++
      s.catalogue.plainInterfaces .host
        (numbered (oid + 1 + slot.netifCapacity) slot.hostifCapacity)) :
    s.Equips s' slot oid (slot.furnished oid (oid + 1)) where
  listed := hslot
  hardware := rfl
  oid_eq := rfl
  indices kind := by
    cases kind with
    | network => exact map_index_numbered ..
    | host => exact map_index_numbered ..
  begins kind i hi := by
    have hmem : (i.oid, s.catalogue.plainInterface kind i.index) ∈ s'.objects := by
      rw [hobjects]
      cases kind with
      | network =>
        exact List.mem_append_left _ (List.mem_append_right _ (List.mem_map.2 ⟨i, hi, rfl⟩))
      | host => exact List.mem_append_right _ (List.mem_map.2 ⟨i, hi, rfl⟩)
    exact ⟨_, hs'.object?_of_mem hmem, Catalogue.begins_plainInterface hc kind i.index⟩

/-- **What creating does**, after every run. An interface is created if it can be attached, and a
module if there is a slot for it. The new object has the next id and the values that it begins with,
and a new module has an interface for every index that its slot has room for. -/
theorem created_of_reaches {s₀ s : Simulator} (h₀ : Initial s₀) (h : Reaches s₀ s)
    (pairs : List (Text × Text)) (moduleOid : Nat) :
    (∀ kind,
      ((∃ oid s', daemon.create (.interface kind) pairs moduleOid s = (.ok oid, s')) ↔
        ∃ slot index, s.Attachable kind pairs moduleOid slot index) ∧
      ∀ slot index, s.Attachable kind pairs moduleOid slot index →
        ∃ s' object, daemon.create (.interface kind) pairs moduleOid s = (.ok s.nextOid, s') ∧
          s'.object? s.nextOid = some object ∧
          s.catalogue.Begins (.interface kind) pairs [(indexName, Numeral.decimal index)] object) ∧
    ((∃ oid s', daemon.create .module pairs moduleOid s = (.ok oid, s')) ↔
      ∃ slot, s.Creatable pairs slot) ∧
    ∀ slot, s.Creatable pairs slot →
      ∃ s' object slot', daemon.create .module pairs moduleOid s = (.ok s.nextOid, s') ∧
        s'.object? s.nextOid = some object ∧ s.catalogue.Begins .module pairs slot.imposed object ∧
        s.Equips s' slot s.nextOid slot' := by
  have hs : s.Sound := (h.evolves h₀.sound).1
  have hc : s.catalogue.Distinct := h.catalogue_eq ▸ h₀.distinct
  refine ⟨fun kind => ⟨⟨?_, ?_⟩, ?_⟩, ⟨?_, ?_⟩, ?_⟩
  · rintro ⟨oid, s', hcreate⟩
    exact attachable_of_create hs hcreate
  · rintro ⟨slot, index, hattachable⟩
    obtain ⟨s', hcreate, -⟩ := create_interface_of_attachable hs hattachable
    exact ⟨_, s', hcreate⟩
  · intro slot index hattachable
    obtain ⟨s', hcreate, hobject⟩ := create_interface_of_attachable hs hattachable
    exact ⟨s', _, hcreate, hobject, Catalogue.begins_make hc _ pairs (List.nodup_singleton _)
      (List.mem_singleton_self indexName)⟩
  · rintro ⟨oid, s', hcreate⟩
    have hrun : create .module pairs moduleOid s = (.ok oid, s') := hcreate
    exact creatable_of_create hs hrun
  · rintro ⟨slot, hcreatable⟩
    obtain ⟨s', hcreate, -⟩ := create_module_of_creatable hs hcreatable moduleOid
    exact ⟨_, s', hcreate⟩
  · intro slot hcreatable
    obtain ⟨s', hcreate, hslot, hobjects⟩ := create_module_of_creatable hs hcreatable moduleOid
    have hs' : s'.Sound := by
      have hevolves := create_evolves .module pairs moduleOid s hs
      rw [hcreate] at hevolves
      exact hevolves.1
    have hkey : locationName ∈ slot.imposed.map Prod.fst := List.mem_cons_self ..
    have hbegins := Catalogue.begins_make hc .module pairs slot.nodup_imposed hkey
    exact ⟨s', _, _, hcreate, hs'.object?_of_mem (by simp [hobjects]), hbegins,
      equips_furnished hc hs' hslot hobjects⟩

/-- In the seed, the module of slot 2 is created: of two locations the first one counts, of two
values the last one. The network interface of module 1 is removed and made anew, with a value. -/
theorem created_of_reaches_seed :
    (∃ s' object slot', daemon.create .module [("admin-status", "up"), (locationName, "2"),
        ("admin-status", "down"), (locationName, "3")] 0 seed = (.ok 5, s') ∧
      s'.object? 5 = some object ∧ object.values.get? "admin-status" = some "down" ∧
      object.values.get? locationName = some "2" ∧
      slot' ∈ s'.slots ∧ slot'.netifs.map InterfaceSummary.index = [0] ∧
      slot'.hostifs.map InterfaceSummary.index = [0, 1]) ∧
    ∃ s' object, daemon.create (.interface .network) [("tx-enable", "true"), (indexName, "0"),
        ("tx-enable", "false"), (indexName, "x")] 1 (remove 2 seed).2 = (.ok 5, s') ∧
      s'.object? 5 = some object ∧ object.values.get? "tx-enable" = some "false" ∧
      object.values.get? indexName = some "0" := by
  constructor
  · obtain ⟨-, -, hmodule⟩ := created_of_reaches .seed .refl [("admin-status", "up"),
      (locationName, "2"), ("admin-status", "down"), (locationName, "3")] 0
    have hcreatable : seed.Creatable [("admin-status", "up"), (locationName, "2"),
        ("admin-status", "down"), (locationName, "3")] ⟨"2", true, 1, 2, 0, [], []⟩ :=
      ⟨by decide, by decide +kernel, rfl, rfl, checkValues_eq_ok.1 (by decide +kernel)⟩
    obtain ⟨s', object, slot', hcreate, hobject, hbegins, hequips⟩ := hmodule _ hcreatable
    refine ⟨s', object, slot', hcreate, hobject, ?_, ?_, hequips.listed, ?_, ?_⟩
    · exact hbegins.of_declared ⟨⟨4, "admin-status", false, "[unknown|down|up]"⟩, some "up"⟩
        (by decide +kernel) (by decide)
    · exact hbegins.of_imposed (locationName, "2") (by decide)
    · exact hequips.indices .network
    · exact hequips.indices .host
  · have hremove : Reaches seed (remove 2 seed).2 :=
      Relation.ReflTransGen.single (Step.call (.remove 2 seed))
    obtain ⟨hinterface, -, -⟩ := created_of_reaches .seed hremove [("tx-enable", "true"),
      (indexName, "0"), ("tx-enable", "false"), (indexName, "x")] 1
    have hattachable : (remove 2 seed).2.Attachable .network [("tx-enable", "true"),
        (indexName, "0"), ("tx-enable", "false"), (indexName, "x")] 1
        ⟨"1", true, 1, 2, 1, [], [⟨0, 3⟩, ⟨1, 4⟩]⟩ 0 :=
      ⟨by decide, by decide +kernel, rfl, by decide, by decide, by decide,
        checkValues_eq_ok.1 (by decide +kernel)⟩
    obtain ⟨s', object, hcreate, hobject, hbegins⟩ := (hinterface .network).2 _ _ hattachable
    refine ⟨s', object, hcreate, hobject, ?_, ?_⟩
    · exact hbegins.of_declared ⟨⟨2, "tx-enable", false, "<bool>"⟩, some "true"⟩
        (by decide +kernel) (by decide)
    · exact hbegins.of_imposed (indexName, "0") (by decide)

end Simulator

end TransponderShell
