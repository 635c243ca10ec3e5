import TransponderShell.Proofs.Simulator.Freshness
import TransponderShell.Proofs.Simulator.Stored

/-!
# What does not change while an object lives

`LiveObject.Agrees c old object` says that two objects have the same type and the same values of its
read-only attributes. A live object agrees with what is live under its id after any number of steps
(`Reaches.agrees`), as writing is refused for these attributes and ids are not used again.

What the slots say of the objects is recorded once more in their values: the location and the
capacities of a slot with its module, the index of an interface with the interface. `Slot.Tells`
lists this, and `Simulator.Labelled` says that the values are as the slots say. If the attributes
are read-only it stays so (`Step.labelled`). `readOnly_constant` has both results.
-/

namespace TransponderShell

/-! ## Read-only attributes -/

/-- Two objects have the same type and the same values of its read-only attributes. -/
def LiveObject.Agrees (c : Catalogue) (old object : LiveObject) : Prop :=
  object.type = old.type ∧ ∀ d ∈ c.of old.type, d.readOnly = true →
    object.values.get? d.name = old.values.get? d.name

namespace LiveObject.Agrees

variable {c : Catalogue} {a b d : LiveObject}

protected theorem refl (c : Catalogue) (a : LiveObject) : a.Agrees c a :=
  ⟨rfl, fun _ _ _ => rfl⟩

protected theorem trans (h : a.Agrees c b) (h' : b.Agrees c d) : a.Agrees c d := by
  obtain ⟨htype, hvalues⟩ := h
  obtain ⟨htype', hvalues'⟩ := h'
  refine ⟨htype'.trans htype, fun e he hreadOnly => ?_⟩
  exact (hvalues' e (htype ▸ he) hreadOnly).trans (hvalues e he hreadOnly)

end LiveObject.Agrees

namespace Simulator

theorem mem_oids_of_object? {s : Simulator} {oid : Nat} {object : LiveObject}
    (h : s.object? oid = some object) : oid ∈ s.oids := by
  by_contra hnot
  rw [object?_eq_none_iff.2 hnot] at h
  cases h

/-- One step changes no read-only attribute of an object that stays. -/
theorem Step.agrees {s s' : Simulator} (hs : s.Sound) (hc : s.catalogue.Distinct) (h : Step s s')
    {oid : Nat} {old object : LiveObject} (hold : s.object? oid = some old)
    (hlive : s'.object? oid = some object) : old.Agrees s.catalogue object := by
  cases h.becomes hs hlive with
  | kept hbefore =>
    obtain rfl : old = object := Option.some.inj (hold.symm.trans hbefore)
    exact .refl ..
  | made hnew => exact absurd (hs.lt_nextOid (mem_oids_of_object? hold)) (Nat.not_lt.2 hnew)
  | @written before d name value hbefore hd hwritable _ =>
    obtain rfl : old = before := Option.some.inj (hold.symm.trans hbefore)
    refine ⟨rfl, fun e he hreadOnly => ?_⟩
    have hname : e.name ≠ name := by
      intro hname
      obtain rfl := hc.eq_of_name he (hname ▸ hd)
      rw [hwritable] at hreadOnly
      cases hreadOnly
    simp [Values.get?_set, hname]

/-- **Read-only attributes keep their values** as long as the object lives. -/
theorem Reaches.agrees {s₀ s s' : Simulator} (h₀ : Initial s₀) (h : Reaches s₀ s)
    (h' : Reaches s s') {oid : Nat} {old object : LiveObject} (hold : s.object? oid = some old)
    (hlive : s'.object? oid = some object) : old.Agrees s.catalogue object := by
  have hsound : s.Sound := (h.evolves h₀.sound).1
  have hdistinct : s.catalogue.Distinct := h.catalogue_eq ▸ h₀.distinct
  refine h'.invariant (P := fun s₁ => ∀ object, s₁.object? oid = some object →
    old.Agrees s.catalogue object) hsound ?_ ?_ object hlive
  · intro object hlive
    obtain rfl : old = object := Option.some.inj (hold.symm.trans hlive)
    exact .refl ..
  · intro s₁ s₂ hreach hsound₁ hcatalogue hstep ih object hlive
    -- an id that has been handed out is not handed out once more
    have hlt := hsound.lt_nextOid (mem_oids_of_object? hold)
    have hmem := hstep.advances.old oid (mem_oids_of_object? hlive)
      (Nat.lt_of_lt_of_le hlt hreach.advances.next_le)
    cases hmiddle : s₁.object? oid with
    | none => exact absurd hmem (object?_eq_none_iff.1 hmiddle)
    | some middle =>
      have hlast := hstep.agrees hsound₁ (hcatalogue ▸ hdistinct) hmiddle hlive
      exact (ih middle hmiddle).trans (hcatalogue ▸ hlast)

end Simulator

/-! ## What slots say -/

/-- What a slot says of the attributes of an object: its location and its capacities of its module,
and their indices of the interfaces. -/
inductive Slot.Tells (slot : Slot) : ObjectHandle → Text → Text → Prop
  | module {name value : Text} (hoid : slot.oid ≠ 0) (h : (name, value) ∈ slot.imposed) :
    Tells slot ⟨.module, slot.oid⟩ name value
  | interface {kind : InterfaceKind} {i : InterfaceSummary} (hi : i ∈ slot.interfaces kind) :
    Tells slot ⟨.interface kind, i.oid⟩ Simulator.indexName (Numeral.decimal i.index)

namespace Slot.Tells

variable {slot slot' : Slot} {handle : ObjectHandle} {name value : Text}

/-- Only attributes that slots set are spoken of. -/
theorem name_mem (h : slot.Tells handle name value) : name ∈ handle.type.imposed := by
  cases h with
  | module _ h => exact slot.name_mem_imposed h
  | interface => simp [ObjectType.imposed]

/-- A slot that keeps what it says of its module, unless that goes, and has no new interfaces says
nothing new. -/
theorem of_kept (h : slot'.Tells handle name value) (hoid : slot'.oid ≠ 0 → slot'.oid = slot.oid)
    (himposed : slot'.imposed = slot.imposed)
    (hinterfaces : ∀ kind, ∀ i ∈ slot'.interfaces kind, i ∈ slot.interfaces kind) :
    slot.Tells handle name value := by
  cases h with
  | module hne h =>
    have hsame := hoid hne
    rw [hsame] at hne ⊢
    exact .module hne (himposed ▸ h)
  | interface hi => exact .interface (hinterfaces _ _ hi)

/-- A new interface is all that a slot says more. -/
theorem of_attach {kind : InterfaceKind} {i : InterfaceSummary}
    (h : (slot.attach kind i).Tells handle name value) :
    slot.Tells handle name value ∨ handle = ⟨.interface kind, i.oid⟩ ∧
      name = Simulator.indexName ∧ value = Numeral.decimal i.index := by
  have himposed : (slot.attach kind i).imposed = slot.imposed := by cases kind <;> rfl
  cases h with
  | module hoid h =>
    rw [Slot.oid_attach] at hoid ⊢
    exact Or.inl (.module hoid (himposed ▸ h))
  | interface hi =>
    rcases Simulator.mem_interfaces_attach hi with ⟨rfl, rfl⟩ | hi
    · exact Or.inr ⟨rfl, rfl, rfl⟩
    · exact Or.inl (.interface hi)

end Slot.Tells

namespace Simulator

/-- A live object of the right type has this value. -/
def Holds (s : Simulator) (handle : ObjectHandle) (name value : Text) : Prop :=
  ∃ object, s.object? handle.oid = some object ∧ object.type = handle.type ∧
    object.values.get? name = some value

/-- The values of the objects are as the slots say. -/
def Labelled (s : Simulator) : Prop :=
  ∀ slot ∈ s.slots, ∀ handle name value, slot.Tells handle name value → s.Holds handle name value

/-- What is said of a slot's object is said of a live one. -/
theorem Sound.exists_of_tells {s : Simulator} (h : s.Sound) {slot : Slot} (hslot : slot ∈ s.slots)
    {handle : ObjectHandle} {name value : Text} (htold : slot.Tells handle name value) :
    ∃ object, s.object? handle.oid = some object ∧ object.type = handle.type := by
  cases htold with
  | module hoid => exact h.coherent.module slot hslot hoid
  | interface hi => exact h.coherent.interface slot hslot _ _ hi

/-- Adding objects keeps what the live ones hold. -/
theorem Holds.gains {s s' : Simulator} (h : Gains s s') (hfresh : s.Fresh) {handle : ObjectHandle}
    {name value : Text} (hholds : s.Holds handle name value) : s'.Holds handle name value := by
  obtain ⟨object, hlive, htype, hvalue⟩ := hholds
  obtain ⟨-, -, -, new, hobjects, -⟩ := h hfresh
  refine ⟨object, ?_, htype, hvalue⟩
  rw [object?, hobjects, List.lookup_append]
  exact Option.or_eq_some_iff.2 (Or.inl hlive)

/-- The attributes that slots set are declared read-only. -/
def Guards (c : Catalogue) : Prop :=
  ∀ type, ∀ name ∈ ObjectType.imposed type, ∃ d ∈ c.of type, d.name = name ∧ d.readOnly = true

/-! ## Requests keep the labels -/

/-- The values that are asked for a module are overridden by those of its slot. -/
theorem get?_make_imposed (c : Catalogue) (own : List (Text × Text)) {slot : Slot}
    {name value : Text} (h : (name, value) ∈ slot.imposed) :
    (c.make .module own slot.imposed).values.get? name = some value :=
  Values.get?_setAll_of_mem slot.nodup_imposed h _

/-- Making an interface keeps the labels, granted or refused. -/
theorem attachInterface_labelled (kind : InterfaceKind) (oid index : Nat)
    (pairs : List (Text × Text)) :
    Keeps (Preserves fun s => s.Fresh ∧ s.Labelled) (attachInterface kind oid index pairs) := by
  rintro s ⟨hfresh, hlabelled⟩
  have hgains := attachInterface_gains kind oid index pairs s
  rcases attachInterface_makes kind oid index pairs hfresh with
    ⟨e, he⟩ | ⟨before, slot, behind, hslots, -, -, -, -, -, hrun⟩
  · rw [he]
    exact ⟨hfresh, hlabelled⟩
  rw [hrun] at hgains ⊢
  refine ⟨(hgains hfresh).1, fun slot' hslot' handle name value htold => ?_⟩
  have hold (other : Slot) (hother : other ∈ s.slots) (htold : other.Tells handle name value) :=
    Holds.gains hgains hfresh (hlabelled other hother handle name value htold)
  simp only [List.mem_append, List.mem_cons] at hslot'
  rcases hslot' with hbefore | rfl | hbehind
  · exact hold slot' (by simp [hslots, hbefore]) htold
  · rcases htold.of_attach with htold | ⟨rfl, rfl, rfl⟩
    · exact hold slot (by simp [hslots]) htold
    · exact ⟨_, object?_withObject hfresh _, rfl, Values.get?_set_self ..⟩
  · exact hold slot' (by simp [hslots, hbehind]) htold

/-- Making a module in a slot without interfaces keeps the labels, granted or refused. -/
theorem createModule_labelled {s : Simulator} (hfresh : s.Fresh) (hlabelled : s.Labelled)
    {before behind : List Slot} {slot : Slot} (hslots : s.slots = before ++ slot :: behind)
    (hbefore : ∀ b ∈ before, b.location ≠ slot.location)
    (hvacant : ∀ kind, slot.interfaces kind = []) (pairs : List (Text × Text)) :
    (createModule slot pairs s).2.Labelled := by
  rcases createModule_makes slot pairs hfresh with ⟨e, he⟩ | ⟨hadmits, hrun⟩
  · rw [he]
    exact hlabelled
  rw [hrun]
  -- the module alone, before its interfaces are made
  have hslots' := slots_updateSlotAt (s := s) ({ · with oid := s.nextOid }) hslots hbefore
  generalize hs' : (s.withObject _).updateSlotAt _ _ = s'
  have hgains : Gains s s' := hs' ▸ Gains.of_make hadmits (fun _ => slot.name_mem_imposed) _
  have hmade : s'.Labelled := by
    intro slot' hslot' handle name value htold
    have hold (hmem : slot' ∈ s.slots) : s'.Holds handle name value :=
      Holds.gains hgains hfresh (hlabelled slot' hmem handle name value htold)
    have hmem : slot' ∈ before ++ { slot with oid := s.nextOid } :: behind := by
      rw [← hs'] at hslot'
      exact hslots' ▸ hslot'
    rw [List.mem_append, List.mem_cons] at hmem
    rcases hmem with hmem | rfl | hmem
    · exact hold (by simp [hslots, hmem])
    · cases htold with
      | module _ h =>
        rw [← hs']
        exact ⟨_, object?_withObject hfresh _, rfl, get?_make_imposed s.catalogue _ h⟩
      | @interface kind i hi =>
        have hnone : i ∈ slot.interfaces kind := hi
        rw [hvacant kind] at hnone
        cases hnone
    · exact hold (by simp [hslots, hmem])
  have hsides := attachSides_keeps (fun kind index =>
    attachInterface_labelled kind s.nextOid index []) slot
  exact (hsides s' ⟨(hgains hfresh).1, hmade⟩).2

/-- Removing leaves nothing new to say. -/
theorem Releases.of_tells {s : Simulator} {oid : Nat} {slots : List Slot}
    (h : s.Releases oid slots) {slot' : Slot} (hslot' : slot' ∈ slots) {handle : ObjectHandle}
    {name value : Text} (htold : slot'.Tells handle name value) :
    ∃ slot ∈ s.slots, slot.Tells handle name value := by
  cases h with
  | interface =>
    obtain ⟨slot, hslot, rfl⟩ := List.mem_map.1 hslot'
    refine ⟨slot, hslot, htold.of_kept (fun _ => rfl) rfl fun kind i hi => ?_⟩
    rw [Slot.interfaces_detach] at hi
    exact List.mem_of_mem_filter hi
  | @module before behind slot _ hslots =>
    rw [List.mem_append, List.mem_cons] at hslot'
    rcases hslot' with hmem | rfl | hmem
    · exact ⟨slot', by simp [hslots, hmem], htold⟩
    · refine ⟨slot, by simp [hslots], htold.of_kept (fun hne => ?_) rfl fun _ _ hi => hi⟩
      exact absurd rfl hne
    · exact ⟨slot', by simp [hslots, hmem], htold⟩

/-- A step after which the slots say nothing new keeps the labels: objects that stay keep the values
of read-only attributes. -/
theorem Step.labelled_of_tells {s s' : Simulator} (hs : s.Sound) (hc : s.catalogue.Distinct)
    (hguards : Guards s.catalogue) (h : Step s s')
    (hold : ∀ slot' ∈ s'.slots, ∀ handle name value, slot'.Tells handle name value →
      ∃ slot ∈ s.slots, slot.Tells handle name value)
    (hlabelled : s.Labelled) : s'.Labelled := by
  intro slot' hslot' handle name value htold
  obtain ⟨slot, hslot, htold₀⟩ := hold slot' hslot' handle name value htold
  obtain ⟨old, hbefore, htype, hvalue⟩ := hlabelled slot hslot handle name value htold₀
  obtain ⟨object, hlive, -⟩ := (h.evolves hs).1.exists_of_tells hslot' htold
  obtain ⟨hsame, hvalues⟩ := h.agrees hs hc hbefore hlive
  obtain ⟨d, hd, rfl, hreadOnly⟩ := hguards handle.type name htold.name_mem
  exact ⟨object, hlive, hsame.trans htype, (hvalues d (htype ▸ hd) hreadOnly).trans hvalue⟩

/-- Creating keeps the labels, granted or refused. -/
theorem create_labelled {s : Simulator} (hs : s.Sound) (hlabelled : s.Labelled) (type : ObjectType)
    (pairs : List (Text × Text)) (oid : Nat) : (create type pairs oid s).2.Labelled := by
  cases type with
  | module =>
    rcases create_module_cases pairs oid s with
      ⟨e, he⟩ | ⟨before, slot, behind, hslots, hbefore, hoid, -, -, hmodule⟩
    · rw [he]
      exact hlabelled
    · rw [hmodule]
      have hvacant := (hs.slot slot (by simp [hslots])).interfaces_of_vacant hoid
      exact createModule_labelled hs.fresh hlabelled hslots hbefore hvacant pairs
  | interface kind =>
    unfold create
    dsimp only
    cases (pairs.lookup indexName).bind Numeral.read32? with
    | none => exact hlabelled
    | some index => exact (attachInterface_labelled kind oid index pairs s ⟨hs.fresh, hlabelled⟩).2

/-- **The values stay as the slots say.** -/
theorem Step.labelled {s s' : Simulator} (hs : s.Sound) (hc : s.catalogue.Distinct)
    (hguards : Guards s.catalogue) (h : Step s s') (hlabelled : s.Labelled) : s'.Labelled := by
  have hstays := h.labelled_of_tells hs hc hguards
  rcases h.cases with ⟨_, _, rfl⟩ | ⟨handle, name, value, rfl⟩ | ⟨type, pairs, moduleOid, rfl⟩ |
    ⟨oid, rfl⟩
  · exact hlabelled
  · refine hstays (fun slot hslot _ _ _ htold => ⟨slot, ?_, htold⟩) hlabelled
    rcases writeAttribute_cases handle name value s with ⟨e, he⟩ | hset
    · rwa [he] at hslot
    · rwa [hset] at hslot
  · exact create_labelled hs hlabelled type pairs moduleOid
  · rcases remove_releases hs oid with ⟨e, he⟩ | ⟨slots, hreleases, -, hrun⟩
    · rw [he]
      exact hlabelled
    · refine hstays (fun slot' hslot' _ _ _ htold => ?_) hlabelled
      rw [hrun] at hslot'
      exact hreleases.of_tells hslot' htold

/-! ## The seed -/

/-- The seed declares what slots set as read-only. -/
theorem seedCatalogue_guards : Guards seedCatalogue := by
  have hall : ∀ type ∈ ObjectType.all, ∀ name ∈ ObjectType.imposed type,
      ∃ d ∈ seedCatalogue.of type, d.name = name ∧ d.readOnly = true := by decide
  exact fun type => hall type type.mem_all

theorem seed_labelled : seed.Labelled := by
  have hslots : unseeded.slots = [] ++ ⟨"1", true, 1, 2, 0, [], []⟩ :: unseeded.slots.tail := rfl
  have hfresh : unseeded.Fresh := by simp [Fresh, unseeded]
  have hlabelled : unseeded.Labelled := by
    intro slot hslot handle name value htold
    obtain ⟨hoid, hempty⟩ := unseeded_vacant slot hslot
    cases htold with
    | module hne => exact absurd hoid hne
    | interface hi => simp [hempty] at hi
  have hvacant (kind : InterfaceKind) :
      Slot.interfaces ⟨"1", true, 1, 2, 0, [], []⟩ kind = [] := by
    cases kind <;> rfl
  exact createModule_labelled hfresh hlabelled hslots (by simp) hvacant []

/-- **In the seed the values are as the slots say**, after every run. -/
theorem Reaches.labelled {s : Simulator} (h : Reaches seed s) : s.Labelled := by
  refine h.invariant Initial.seed.sound seed_labelled fun _ hs hcatalogue hstep hlabelled => ?_
  rw [catalogue_seed] at hcatalogue
  refine hstep.labelled hs ?_ ?_ hlabelled
  · exact hcatalogue ▸ seedCatalogue_distinct
  · exact hcatalogue ▸ seedCatalogue_guards

/-- **Read-only attributes are constant**, from the state in which an object has been created until
it is removed, whatever is asked meanwhile. In the seed, a created module therefore has the location
and the capacities of its slot, and a listed interface its index. -/
theorem readOnly_constant :
    (∀ s₀ s s', Initial s₀ → Reaches s₀ s → Reaches s s' → ∀ oid old object,
      s.object? oid = some old → s'.object? oid = some object →
      object.type = old.type ∧ ∀ d ∈ s.catalogue.of old.type, d.readOnly = true →
        ∃ value, old.values.get? d.name = some value ∧ object.values.get? d.name = some value) ∧
    ∀ s, Reaches seed s → ∀ slot ∈ s.slots, ∀ json,
      (slot.summary.oid ≠ 0 → ∀ name value, (name, value) ∈ [
          (locationName, slot.location),
          (netifCountName, Numeral.decimal slot.netifCapacity),
          (hostifCountName, Numeral.decimal slot.hostifCapacity)] →
        (daemon.get ⟨.module, slot.summary.oid⟩ name json s).1 = .ok (encode json value)) ∧
      ∀ kind, ∀ i ∈ slot.summary.interfaces kind,
        (daemon.get ⟨.interface kind, i.oid⟩ indexName json s).1 =
          .ok (encode json (Numeral.decimal i.index)) := by
  refine ⟨fun s₀ s s' h₀ h h' oid old object hold hlive => ?_, fun s h slot hslot json => ?_⟩
  · obtain ⟨htype, hvalues⟩ := h.agrees h₀ h' hold hlive
    refine ⟨htype, fun d hd hreadOnly => ?_⟩
    obtain ⟨value, hvalue, -⟩ := h.stocked h₀ oid old hold d hd
    exact ⟨value, hvalue, (hvalues d hd hreadOnly).trans hvalue⟩
  · have hcatalogue : s.catalogue = seedCatalogue := h.catalogue_eq.trans catalogue_seed
    have hget {handle : ObjectHandle} {name value : Text} (htold : slot.Tells handle name value) :
        (daemon.get handle name json s).1 = .ok (encode json value) := by
      obtain ⟨object, hlive, htype, hvalue⟩ := h.labelled slot hslot handle name value htold
      obtain ⟨d, hd, rfl, -⟩ := seedCatalogue_guards handle.type name htold.name_mem
      have hfound := Catalogue.find?_of_mem seedCatalogue_distinct hd
      exact readAttribute_eq_ok.2
        ⟨object, ⟨hlive, htype⟩, d, hcatalogue ▸ hfound, value, hvalue, rfl⟩
    refine ⟨fun hoid name value hmem => hget (.module hoid hmem), fun kind i hi => ?_⟩
    rw [Slot.interfaces_summary] at hi
    exact hget (.interface hi)

/-- The network interface of the seed is removed and made anew: its module keeps its status and the
number of interfaces that it has room for, and the new one has the index of the old one. -/
theorem readOnly_constant_reattached :
    (∃ old object value, seed.object? 1 = some old ∧ reattached.object? 1 = some object ∧
      old.values.get? "oper-status" = some value ∧ object.values.get? "oper-status" = some value) ∧
    (daemon.get ⟨.module, 1⟩ netifCountName false reattached).1 = .ok "1".toList ∧
    (daemon.get ⟨.interface .network, 5⟩ indexName false reattached).1 = .ok "0".toList := by
  have hremove : Step seed (remove 2 seed).2 := Step.call (.remove 2 seed)
  have hcreate : Step (remove 2 seed).2 reattached := Step.call (.create _ _ 1 _)
  have hreach : Reaches seed reattached := (Relation.ReflTransGen.single hremove).tail hcreate
  have hslot : ⟨"1", true, 1, 2, 1, [⟨0, 5⟩], [⟨0, 3⟩, ⟨1, 4⟩]⟩ ∈ reattached.slots := by
    decide +kernel
  obtain ⟨hconstant, hslots⟩ := readOnly_constant
  obtain ⟨hmodule, hinterfaces⟩ := hslots reattached hreach _ hslot false
  refine ⟨?_, hmodule (by decide) netifCountName "1" (by decide),
    hinterfaces .network ⟨0, 5⟩ (by decide)⟩
  obtain ⟨-, hvalues⟩ := hconstant seed seed reattached .seed .refl hreach 1 _ _ rfl rfl
  obtain ⟨value, hvalue, hvalue'⟩ := hvalues
    ⟨⟨3, "oper-status", true, "[unknown|initialize|ready]"⟩, some "ready"⟩ (by decide) rfl
  exact ⟨_, _, value, rfl, rfl, hvalue, hvalue'⟩

end Simulator

end TransponderShell
