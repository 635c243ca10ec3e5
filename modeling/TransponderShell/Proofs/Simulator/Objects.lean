import TransponderShell.Proofs.Simulator.Catalogue
import TransponderShell.Simulator.Lemmas

/-!
# What steps do to the live objects

A new object is made from the values that the declarations of its type give it, over these those
that were asked for, and over these those that its slot imposes (`Catalogue.make`). What can be
asked for are values that the declarations admit (`Catalogue.Admits`).

* `spawn_makes`, `attachInterface_makes` and `createModule_makes` say which object a request makes.
  Granted or refused, creating only adds such objects at the end, with ids from the counter on
  (`create_gains`).
* `Becomes s oid object` lists what a live object can be after a step: the one that it has been
  before, a new one, or the one that it has been with a value written that its declaration admits
  (`Step.becomes`).
-/

namespace TransponderShell

/-! ## New objects -/

/-- The attributes that the slot of an object sets. -/
def ObjectType.imposed : ObjectType → List Text
  | .module => [Simulator.locationName, Simulator.netifCountName, Simulator.hostifCountName]
  | .interface _ => [Simulator.indexName]

/-- The values that a slot imposes on its module. -/
def Slot.imposed (slot : Slot) : List (Text × Text) := [
  (Simulator.locationName, slot.location),
  (Simulator.netifCountName, Numeral.decimal slot.netifCapacity),
  (Simulator.hostifCountName, Numeral.decimal slot.hostifCapacity)]

theorem Slot.name_mem_imposed {slot : Slot} {pair : Text × Text} (h : pair ∈ slot.imposed) :
    pair.1 ∈ ObjectType.imposed .module := by
  simp only [imposed, List.mem_cons, List.not_mem_nil, or_false] at h
  rcases h with rfl | rfl | rfl <;> simp [ObjectType.imposed]

/-- A slot imposes no two values on one attribute. -/
theorem Slot.nodup_imposed (slot : Slot) : (slot.imposed.map Prod.fst).Nodup := by
  show (ObjectType.imposed .module).Nodup
  decide

namespace Catalogue

/-- The values that the declarations of a type give a new object. -/
def initialValues (c : Catalogue) (type : ObjectType) : Values :=
  Values.setAll [] ((c.of type).map fun d => (d.name, d.value))

/-- A new object with the values of `pairs`, over which the slot has set those of `imposed`. -/
def make (c : Catalogue) (type : ObjectType) (pairs imposed : List (Text × Text)) : LiveObject where
  type := type
  values := ((c.initialValues type).setAll pairs).setAll imposed

/-- Every pair names a declared attribute and has a value that it admits. -/
def Admits (c : Catalogue) (type : ObjectType) (pairs : List (Text × Text)) : Prop :=
  ∀ pair ∈ pairs, ∃ d, c.find? type pair.1 = some d ∧ Usage.admits d.usage pair.2 = true

/-- An object is new: it has been made as it is declared, with values that are admitted, and nothing
else is imposed on it than what slots set. -/
def Makes (c : Catalogue) (object : LiveObject) : Prop :=
  ∃ pairs imposed, c.Admits object.type pairs ∧
    (∀ pair ∈ imposed, pair.1 ∈ object.type.imposed) ∧
    object = c.make object.type pairs imposed

theorem admits_cons {c : Catalogue} {type : ObjectType} {pair : Text × Text}
    {rest : List (Text × Text)} : c.Admits type (pair :: rest) ↔
      (∃ d, c.find? type pair.1 = some d ∧ Usage.admits d.usage pair.2 = true) ∧
        c.Admits type rest := by
  simp only [Admits, List.mem_cons, forall_eq_or_imp]

theorem makes_make {c : Catalogue} {type : ObjectType} {pairs imposed : List (Text × Text)}
    (hpairs : c.Admits type pairs) (himposed : ∀ pair ∈ imposed, pair.1 ∈ type.imposed) :
    c.Makes (c.make type pairs imposed) :=
  ⟨pairs, imposed, hpairs, himposed, rfl⟩

/-- Every declared attribute has a value in the beginning. -/
theorem exists_initialValues {c : Catalogue} {type : ObjectType} {d : Declaration}
    (hd : d ∈ c.of type) : ∃ value, (c.initialValues type).get? d.name = some value := by
  have hmem : (d.name, d.value) ∈ ((c.of type).map fun d => (d.name, d.value)).reverse :=
    List.mem_reverse.2 (List.mem_map_of_mem hd)
  obtain ⟨value, hvalue⟩ := Values.exists_get? hmem
  exact ⟨value, by simp [initialValues, Values.get?_setAll, hvalue]⟩

/-- A value in the beginning is the one of a declaration. -/
theorem initialValues_cases {c : Catalogue} {type : ObjectType} {name value : Text}
    (h : (c.initialValues type).get? name = some value) :
    ∃ d ∈ c.of type, d.name = name ∧ d.value = value := by
  rcases Values.get?_setAll_cases h with hmem | hnone
  · obtain ⟨d, hd, hpair⟩ := List.mem_map.1 hmem
    exact ⟨d, hd, congrArg Prod.fst hpair, congrArg Prod.snd hpair⟩
  · cases hnone

end Catalogue

namespace Simulator

/-- All ids of live objects are below the counter. -/
def Fresh (s : Simulator) : Prop := ∀ p ∈ s.objects, p.1 < s.nextOid

theorem Sound.fresh {s : Simulator} (h : s.Sound) : s.Fresh :=
  fun p hp => h.lt_next (p.1, p.2.type) (List.mem_map_of_mem hp)

/-- The state with one more object. -/
def withObject (s : Simulator) (object : LiveObject) : Simulator :=
  { s with objects := s.objects ++ [(s.nextOid, object)], nextOid := s.nextOid + 1 }

theorem Fresh.withObject {s : Simulator} (h : s.Fresh) (object : LiveObject) :
    (s.withObject object).Fresh := by
  intro p hp
  show p.1 < s.nextOid + 1
  rcases List.mem_append.1 hp with hp | hp
  · exact Nat.lt_succ_of_lt (h p hp)
  · obtain rfl := List.mem_singleton.1 hp
    exact Nat.lt_succ_self _

/-- The values of the new object can still be changed without touching the others. -/
theorem updateValues_withObject {s : Simulator} (h : s.Fresh) (object : LiveObject)
    (f : Values → Values) : (s.withObject object).updateValues s.nextOid f =
      s.withObject { object with values := f object.values } := by
  have hold : (s.updateValues s.nextOid f).objects = s.objects := by
    refine (List.map_congr_left fun p hp => ?_).trans (List.map_id _)
    exact if_neg (Nat.ne_of_lt (h p hp))
  simp only [updateValues] at hold
  simp [updateValues, withObject, hold]

/-- The live object of an id after the values of one have been changed. -/
theorem object?_updateValues (s : Simulator) (oid : Nat) (f : Values → Values) (other : Nat) :
    (s.updateValues oid f).object? other = (s.object? other).map fun object =>
      if other = oid then { object with values := f object.values } else object := by
  simp only [object?, updateValues]
  induction s.objects with
  | nil => rfl
  | cons p rest ih =>
    obtain ⟨id, object⟩ := p
    by_cases hid : other = id
    · subst hid
      by_cases hoid : other = oid
      · simp [hoid]
      · simp [hoid]
    · have hlookup : (other == id) = false := beq_eq_false_iff_ne.2 hid
      rcases eq_or_ne id oid with rfl | hoid
      · simpa [List.lookup_cons, hlookup] using ih
      · simpa [List.lookup_cons, hlookup, hoid] using ih

theorem object?_withObject {s : Simulator} (h : s.Fresh) (object : LiveObject) :
    (s.withObject object).object? s.nextOid = some object := by
  have hnone : s.objects.lookup s.nextOid = none := by
    refine List.lookup_eq_none_iff.2 fun p hp => ?_
    simpa using Nat.ne_of_gt (h p hp)
  simp [object?, withObject, List.lookup_append, hnone]

/-! ## What requests make -/

/-- The checks of values have passed if all values are admitted. -/
theorem checkValues_eq_ok {type : ObjectType} {pairs : List (Text × Text)} {s : Simulator} :
    (checkValues type pairs s).1 = .ok () ↔ s.catalogue.Admits type pairs := by
  induction pairs with
  | nil => simp [checkValues, Catalogue.Admits]
  | cons pair rest ih =>
    have hcheck : (checkValues type (pair :: rest) s).1 = .ok () ↔
        (checkValue type pair.1 pair.2 s).1 = .ok () ∧ (checkValues type rest s).1 = .ok () := by
      rw [checkValues, run_bind_eq_ok_of_reads (checkValue_reads type _ _)]
      constructor
      · rintro ⟨⟨⟩, hpair, hrest⟩
        exact ⟨hpair, hrest⟩
      · exact fun ⟨hpair, hrest⟩ => ⟨(), hpair, hrest⟩
    rw [hcheck, ih, checkValue_eq_ok, Catalogue.admits_cons]

/-- Values that are admitted make an object. -/
theorem spawn_of_admits {type : ObjectType} {pairs : List (Text × Text)} {s : Simulator}
    (h : s.catalogue.Admits type pairs) :
    spawn type pairs s = (.ok s.nextOid, s.withObject (s.catalogue.make type pairs [])) := by
  unfold spawn
  rw [run_bind_of_reads (checkValues_reads type pairs), checkValues_eq_ok.2 h]
  rfl

/-- **Making an object** is refused, or the values are admitted and there is one object more. -/
theorem spawn_makes (type : ObjectType) (pairs : List (Text × Text)) (s : Simulator) :
    (∃ e, spawn type pairs s = (.error e, s)) ∨
    s.catalogue.Admits type pairs ∧
      spawn type pairs s = (.ok s.nextOid, s.withObject (s.catalogue.make type pairs [])) := by
  rcases hchecked : (checkValues type pairs s).1 with e | ⟨⟩
  · refine Or.inl ⟨e, ?_⟩
    unfold spawn
    rw [run_bind_of_reads (checkValues_reads type pairs), hchecked]
  · have hadmits := checkValues_eq_ok.1 hchecked
    exact Or.inr ⟨hadmits, spawn_of_admits hadmits⟩

/-- Values that are admitted make an interface, if the slot of the module has room for its index. -/
theorem attachInterface_of_admits {kind : InterfaceKind} {s : Simulator} (h : s.Fresh)
    {before behind : List Slot} {slot : Slot} (hslots : s.slots = before ++ slot :: behind)
    (hbefore : ∀ b ∈ before, b.oid ≠ slot.oid) (hoid : slot.oid ≠ 0) {index : Nat}
    (hroom : index < slot.capacity kind) (hnew : ∀ i ∈ slot.interfaces kind, i.index ≠ index)
    {pairs : List (Text × Text)}
    (hadmits : s.catalogue.Admits (.interface kind) (pairs.filter fun p => p.1 ≠ indexName)) :
    attachInterface kind slot.oid index pairs s = (.ok s.nextOid,
      { s.withObject (s.catalogue.make (.interface kind) (pairs.filter fun p => p.1 ≠ indexName)
          [(indexName, Numeral.decimal index)]) with
        slots := before ++ slot.attach kind ⟨index, s.nextOid⟩ :: behind }) := by
  rw [attachInterface_eq hslots hbefore hoid hroom hnew, run_bind_ok (spawn_of_admits hadmits),
    run_bind_ok (run_modify ..), run_bind_ok (run_modify ..), run_pure, updateValues_withObject h]
  have hslots' := slots_updateSlotOf (s := s) (Slot.attach · kind ⟨index, s.nextOid⟩) hslots
    hbefore rfl
  rw [← hslots']
  rfl

/-- **Making an interface** is refused, or the slot of the module has room for its index, the values
that were asked for are admitted, and there is one object more, with these values and its index. -/
theorem attachInterface_makes (kind : InterfaceKind) (oid index : Nat)
    (pairs : List (Text × Text)) {s : Simulator} (h : s.Fresh) :
    (∃ e, attachInterface kind oid index pairs s = (.error e, s)) ∨
    ∃ before slot behind, s.slots = before ++ slot :: behind ∧ slot.oid = oid ∧ oid ≠ 0 ∧
      index < slot.capacity kind ∧ (∀ i ∈ slot.interfaces kind, i.index ≠ index) ∧
      s.catalogue.Admits (.interface kind) (pairs.filter fun p => p.1 ≠ indexName) ∧
      attachInterface kind oid index pairs s = (.ok s.nextOid,
        { s.withObject (s.catalogue.make (.interface kind) (pairs.filter fun p => p.1 ≠ indexName)
            [(indexName, Numeral.decimal index)]) with
          slots := before ++ slot.attach kind ⟨index, s.nextOid⟩ :: behind }) := by
  rcases attachInterface_spawn kind oid index pairs s with
    he | ⟨before, slot, behind, hslots, hbefore, rfl, hoid, hroom, hnew, hrun⟩
  · exact Or.inl he
  rcases spawn_makes (.interface kind) (pairs.filter fun p => p.1 ≠ indexName) s with
    ⟨e, he⟩ | ⟨hadmits, -⟩
  · exact Or.inl ⟨e, hrun.trans (run_bind_error he _)⟩
  · exact Or.inr ⟨before, slot, behind, hslots, rfl, hoid, hroom, hnew, hadmits,
      attachInterface_of_admits h hslots hbefore hoid hroom hnew hadmits⟩

/-- Values that are admitted make a module, with these values and those of its slot, and what is
left to do is to make the interfaces. -/
theorem createModule_of_admits {slot : Slot} {pairs : List (Text × Text)} {s : Simulator}
    (h : s.Fresh)
    (hadmits : s.catalogue.Admits .module (pairs.filter fun p => p.1 ≠ locationName)) :
    createModule slot pairs s =
      attachSides slot s.nextOid
        ((s.withObject (s.catalogue.make .module (pairs.filter fun p => p.1 ≠ locationName)
          slot.imposed)).updateSlotAt slot.location ({ · with oid := s.nextOid })) := by
  rw [createModule_eq, run_bind_ok (spawn_of_admits hadmits), furnish,
    run_bind_ok (run_modify ..), run_bind_ok (run_modify ..), updateValues_withObject h]
  rfl

/-- **Making a module** is refused, or the values that were asked for are admitted. -/
theorem createModule_makes (slot : Slot) (pairs : List (Text × Text)) {s : Simulator}
    (h : s.Fresh) :
    (∃ e, createModule slot pairs s = (.error e, s)) ∨
    s.catalogue.Admits .module (pairs.filter fun p => p.1 ≠ locationName) ∧
      createModule slot pairs s =
        attachSides slot s.nextOid
          ((s.withObject (s.catalogue.make .module (pairs.filter fun p => p.1 ≠ locationName)
            slot.imposed)).updateSlotAt slot.location ({ · with oid := s.nextOid })) := by
  rcases spawn_makes .module (pairs.filter fun p => p.1 ≠ locationName) s with
    ⟨e, he⟩ | ⟨hadmits, -⟩
  · exact Or.inl ⟨e, run_bind_error he _⟩
  · exact Or.inr ⟨hadmits, createModule_of_admits h hadmits⟩

/-! ## What becomes of the live objects -/

/-- Objects have been added at the end, under ids from the counter on, each made as it is
declared. -/
def Gains (s s' : Simulator) : Prop :=
  s.Fresh → s'.Fresh ∧ s.nextOid ≤ s'.nextOid ∧ s'.catalogue = s.catalogue ∧
    ∃ new, s'.objects = s.objects ++ new ∧ ∀ p ∈ new, s.nextOid ≤ p.1 ∧ s.catalogue.Makes p.2

instance : IsPreorder Simulator Gains where
  refl s h := ⟨h, Nat.le_refl _, rfl, [], (List.append_nil _).symm, nofun⟩
  trans s s' s'' h h' hfresh := by
    obtain ⟨hfresh', hle, hcatalogue, new, hnew, hmade⟩ := h hfresh
    obtain ⟨hfresh'', hle', hcatalogue', new', hnew', hmade'⟩ := h' hfresh'
    refine ⟨hfresh'', Nat.le_trans hle hle', hcatalogue'.trans hcatalogue, new ++ new',
      by rw [hnew', hnew, List.append_assoc], fun p hp => ?_⟩
    rcases List.mem_append.1 hp with hp | hp
    · exact hmade p hp
    · obtain ⟨hge, hmakes⟩ := hmade' p hp
      exact ⟨Nat.le_trans hle hge, hcatalogue ▸ hmakes⟩

/-- One object has been added, whatever has become of the slots. -/
theorem Gains.of_make {s : Simulator} {type : ObjectType} {pairs imposed : List (Text × Text)}
    (hpairs : s.catalogue.Admits type pairs) (himposed : ∀ pair ∈ imposed, pair.1 ∈ type.imposed)
    (slots : List Slot) :
    Gains s { s.withObject (s.catalogue.make type pairs imposed) with slots := slots } := by
  intro hfresh
  refine ⟨hfresh.withObject _, Nat.le_succ _, rfl, _, rfl, fun p hp => ?_⟩
  obtain rfl := List.mem_singleton.1 hp
  exact ⟨Nat.le_refl _, Catalogue.makes_make hpairs himposed⟩

theorem attachInterface_gains (kind : InterfaceKind) (oid index : Nat)
    (pairs : List (Text × Text)) : Keeps Gains (attachInterface kind oid index pairs) := by
  intro s hfresh
  rcases attachInterface_makes kind oid index pairs hfresh with
    ⟨e, he⟩ | ⟨_, _, _, -, -, -, -, -, hadmits, hrun⟩
  · rw [he]
    exact refl_of Gains s hfresh
  · rw [hrun]
    exact Gains.of_make hadmits (by simp [ObjectType.imposed]) _ hfresh

theorem attachSides_gains (slot : Slot) (oid : Nat) : Keeps Gains (attachSides slot oid) :=
  attachSides_keeps (fun kind index => attachInterface_gains kind oid index []) slot

theorem createModule_gains (slot : Slot) (pairs : List (Text × Text)) :
    Keeps Gains (createModule slot pairs) := by
  intro s hfresh
  rcases createModule_makes slot pairs hfresh with ⟨e, he⟩ | ⟨hadmits, hrun⟩
  · rw [he]
    exact refl_of Gains s hfresh
  · rw [hrun]
    have hmade := Gains.of_make hadmits (fun _ => slot.name_mem_imposed)
    exact trans_of Gains (hmade _) (attachSides_gains slot s.nextOid _) hfresh

/-- **Creating only adds objects that are made as they are declared**, granted or refused. -/
theorem create_gains (type : ObjectType) (pairs : List (Text × Text)) (oid : Nat) :
    Keeps Gains (create type pairs oid) :=
  create_keeps createModule_gains attachInterface_gains type pairs oid

/-- What the live object of an id can be after a step. -/
inductive Becomes (s : Simulator) (oid : Nat) : LiveObject → Prop
  | kept {object : LiveObject} (hlive : s.object? oid = some object) : Becomes s oid object
  | made {object : LiveObject} (hnew : s.nextOid ≤ oid) (hmakes : s.catalogue.Makes object) :
    Becomes s oid object
  | written {object : LiveObject} {d : Declaration} {name value : Text}
    (hlive : s.object? oid = some object) (hd : s.catalogue.find? object.type name = some d)
    (hwritable : d.readOnly = false) (hadmits : Usage.admits d.usage value = true) :
    Becomes s oid { object with values := object.values.set name value }

theorem Gains.becomes {s s' : Simulator} (h : Gains s s') (hfresh : s.Fresh) {oid : Nat}
    {object : LiveObject} (hlive : s'.object? oid = some object) : Becomes s oid object := by
  obtain ⟨-, -, -, new, hobjects, hmade⟩ := h hfresh
  rw [object?, hobjects, List.lookup_append, Option.or_eq_some_iff] at hlive
  rcases hlive with hlive | ⟨-, hnew⟩
  · exact .kept hlive
  · obtain ⟨before, behind, hsplit, -⟩ := List.lookup_eq_some_iff.1 hnew
    obtain ⟨hge, hmakes⟩ := hmade (oid, object) (by simp [hsplit])
    exact .made hge hmakes

/-- **Where live objects come from.** What is live after a step has been live before or is new, and
one that has been live has changed in no more than one value, one that it admits. -/
theorem Step.becomes {s s' : Simulator} (hs : s.Sound) (h : Step s s') {oid : Nat}
    {object : LiveObject} (hlive : s'.object? oid = some object) : Becomes s oid object := by
  rcases h.cases with ⟨_, _, rfl⟩ | ⟨handle, name, value, rfl⟩ | ⟨type, pairs, moduleOid, rfl⟩ |
    ⟨gone, rfl⟩
  · exact .kept hlive
  · rcases writeAttribute_cases handle name value s with ⟨e, he⟩ | hset
    · rw [he] at hlive
      exact .kept hlive
    · obtain ⟨⟨old, hold, htype⟩, d, hd, hwritable, hadmits⟩ :=
        writeAttribute_eq_ok.1 (congrArg Prod.fst hset)
      rw [hset, object?_updateValues] at hlive
      obtain ⟨before, hbefore, rfl⟩ := Option.map_eq_some_iff.1 hlive
      split
      · rename_i hoid
        subst hoid
        obtain rfl : old = before := Option.some.inj (hold.symm.trans hbefore)
        exact .written hbefore (htype ▸ hd) hwritable hadmits
      · exact .kept hbefore
  · exact (create_gains type pairs moduleOid s).becomes hs.fresh hlive
  · rcases remove_cases hs gone with ⟨e, he⟩ | ⟨s', hs', -, -, -, hobjects⟩
    · rw [he] at hlive
      exact .kept hlive
    · rw [hs', object?_of_filter hobjects] at hlive
      split at hlive
      · cases hlive
      · exact .kept hlive

end Simulator

end TransponderShell
