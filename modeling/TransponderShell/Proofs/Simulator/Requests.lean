import TransponderShell.Daemon.FeedLemmas
import TransponderShell.Proofs.Daemon.Effect
import TransponderShell.Proofs.Simulator.Sound

/-!
# What requests do to the simulator

The requests that ask for something only read (`Keeps Eq`). Of those that change something, one
lemma for each says all that it can do.

* `spawn_cases`: making an object fails and changes nothing, or adds the object at the end under
  the next id.
* `attachInterface_cases`: making an interface fails and changes nothing, or lists the new object
  in the slot of the module, which has room for it (`attachInterface_spawn`).
* `create_module_cases`: creating a module fails and changes nothing, or makes one in a slot with
  hardware and without a module.
* `remove_cases`: removing fails and changes nothing, or takes a live object out of its slot and
  out of the live objects (`remove_releases`).
* `writeAttribute_cases`: writing fails and changes nothing, or sets the value.

`Evolves view s s'` says that `s'` is sound if `s` is, and has the same slots as far as `view` shows
them. Making an interface keeps the modules (`attachInterface_evolves`), and creating and removing
keep the hardware (`create_evolves`, `remove_evolves`). What a request keeps whether it is granted
or refused is told by its parts (`create_keeps`, `remove_keeps`).
-/

namespace TransponderShell.Simulator

/-! ## Requests that only read -/

theorem declaration_reads (type : ObjectType) (name : Text) : Keeps Eq (declaration type name) := by
  unfold declaration
  refine Keeps.get.bind fun s => ?_
  split
  · exact Keeps.pure _
  · exact Keeps.throw _

theorem liveObject_reads (handle : ObjectHandle) : Keeps Eq (liveObject handle) := by
  unfold liveObject
  refine Keeps.get.bind fun s => ?_
  split
  · split
    · exact Keeps.pure _
    · exact Keeps.throw _
  · exact Keeps.throw _

theorem checkValue_reads (type : ObjectType) (name value : Text) :
    Keeps Eq (checkValue type name value) := by
  unfold checkValue
  refine (declaration_reads type name).bind fun d => ?_
  split
  · exact Keeps.pure ()
  · exact Keeps.throw _

theorem checkValues_reads (type : ObjectType) (pairs : List (Text × Text)) :
    Keeps Eq (checkValues type pairs) := by
  induction pairs with
  | nil => exact Keeps.pure ()
  | cons pair rest ih => exact (checkValue_reads type pair.1 pair.2).bind fun _ => ih

theorem readAttribute_reads (handle : ObjectHandle) (name : Text) (json : Bool) :
    Keeps Eq (readAttribute handle name json) := by
  unfold readAttribute
  refine (liveObject_reads handle).bind fun object => ?_
  refine (declaration_reads handle.type name).bind fun _ => ?_
  split
  · exact Keeps.pure _
  · exact Keeps.throw _

theorem describe_reads (handle : ObjectHandle) (name : Text) : Keeps Eq (describe handle name) := by
  unfold describe
  refine (liveObject_reads handle).bind fun _ => ?_
  refine (declaration_reads handle.type name).bind fun d => ?_
  dsimp only
  split <;> exact Keeps.pure _

theorem checkFollowed_reads (handle : ObjectHandle) (name : Text) :
    Keeps Eq (checkFollowed handle name) := by
  unfold checkFollowed
  refine (liveObject_reads handle).bind fun _ => ?_
  refine (declaration_reads handle.type name).bind fun d => ?_
  split
  · exact Keeps.pure ()
  · exact Keeps.throw _

/-- Following an attribute changes nothing, whoever follows it. -/
theorem state_run_follow {γ : Type} (r : Receiver γ) (handle : ObjectHandle) (name : Text)
    (json : Bool) (s : Simulator) (g : γ) : ((follow handle name json s).run r g).2.1 = s := by
  have hs := checkFollowed_reads handle name s
  unfold follow
  generalize checkFollowed handle name s = checked at hs ⊢
  match checked with
  | (.error _, _) => exact hs.symm
  | (.ok (), _) =>
    subst hs
    obtain ⟨g', hrun⟩ := Feed.exists_run_ofList r s (notifications handle name json s) g
    exact congrArg (fun result => result.2.1) hrun

/-! ## Parts of the changes -/

section Parts

variable (s : Simulator) (oid : Nat) (f : Values → Values) (g : Slot → Slot) (location : Text)

@[simp] theorem directory_updateValues : (s.updateValues oid f).directory = s.directory := by
  simp only [directory, updateValues, List.map_map]
  refine List.map_congr_left fun p _ => ?_
  simp only [Function.comp_apply]
  split <;> rfl

@[simp] theorem slots_updateValues : (s.updateValues oid f).slots = s.slots := rfl

@[simp] theorem nextOid_updateValues : (s.updateValues oid f).nextOid = s.nextOid := rfl

@[simp] theorem directory_updateSlotOf : (s.updateSlotOf oid g).directory = s.directory := rfl

@[simp] theorem nextOid_updateSlotOf : (s.updateSlotOf oid g).nextOid = s.nextOid := rfl

@[simp] theorem directory_updateSlotAt : (s.updateSlotAt location g).directory = s.directory := rfl

@[simp] theorem nextOid_updateSlotAt : (s.updateSlotAt location g).nextOid = s.nextOid := rfl

variable {s oid} {before behind : List Slot} {slot : Slot}

/-- The slot of a module is the first one with its id. -/
theorem slots_updateSlotOf (hslots : s.slots = before ++ slot :: behind)
    (hbefore : ∀ b ∈ before, b.oid ≠ oid) (hoid : slot.oid = oid) :
    (s.updateSlotOf oid g).slots = before ++ g slot :: behind := by
  have hother : ∀ b ∈ before, decide (b.oid = oid) = false := by
    intro b hb
    exact decide_eq_false (hbefore b hb)
  show updateFirst _ g s.slots = _
  rw [hslots]
  exact updateFirst_append hother (decide_eq_true hoid) behind

theorem slots_updateSlotAt (hslots : s.slots = before ++ slot :: behind)
    (hbefore : ∀ b ∈ before, b.location ≠ slot.location) :
    (s.updateSlotAt slot.location g).slots = before ++ g slot :: behind := by
  have hother : ∀ b ∈ before, decide (b.location = slot.location) = false := by
    intro b hb
    exact decide_eq_false (hbefore b hb)
  show updateFirst _ g s.slots = _
  rw [hslots]
  exact updateFirst_append hother (decide_eq_true rfl) behind

end Parts

/-! ## Making objects -/

/-- **Making an object** fails and changes nothing, or adds the object under the next id. -/
theorem spawn_cases (type : ObjectType) (pairs : List (Text × Text)) (s : Simulator) :
    (∃ e, spawn type pairs s = (.error e, s)) ∨
    ∃ s', spawn type pairs s = (.ok s.nextOid, s') ∧ s'.slots = s.slots ∧
      s'.directory = s.directory ++ [(s.nextOid, type)] ∧ s'.nextOid = s.nextOid + 1 := by
  unfold spawn
  rw [run_bind_of_reads (checkValues_reads type pairs)]
  split
  · refine Or.inr ⟨_, rfl, rfl, ?_, rfl⟩
    simp [directory]
  · exact Or.inl ⟨_, rfl⟩

/-- Making an interface is refused, or the slot of the module has room for the index, and what is
left to do is to make the object, to number it and to attach it. -/
theorem attachInterface_spawn (kind : InterfaceKind) (oid index : Nat)
    (pairs : List (Text × Text)) (s : Simulator) :
    (∃ e, attachInterface kind oid index pairs s = (.error e, s)) ∨
    ∃ before slot behind, s.slots = before ++ slot :: behind ∧ (∀ b ∈ before, b.oid ≠ oid) ∧
      slot.oid = oid ∧ oid ≠ 0 ∧ index < slot.capacity kind ∧
      (∀ i ∈ slot.interfaces kind, i.index ≠ index) ∧
      attachInterface kind oid index pairs s =
        (spawn (.interface kind) (pairs.filter fun p => p.1 ≠ indexName) >>=
          fun new => do
            modify fun s => s.updateValues new (Values.set indexName (Numeral.decimal index))
            modify fun s => s.updateSlotOf oid (Slot.attach · kind ⟨index, new⟩)
            return new) s := by
  unfold attachInterface
  rw [run_bind, run_get]
  dsimp only
  cases hfind : s.slots.find? fun slot => slot.oid = oid ∧ oid ≠ 0 with
  | none => exact Or.inl ⟨_, rfl⟩
  | some slot =>
    obtain ⟨before, behind, hslots, hbefore, hslot⟩ := exists_of_find? hfind
    obtain ⟨hoid, hne⟩ : slot.oid = oid ∧ oid ≠ 0 := by simpa using hslot
    dsimp only
    split
    · exact Or.inl ⟨_, rfl⟩
    rename_i hlt
    split
    · exact Or.inl ⟨_, rfl⟩
    rename_i hany
    refine Or.inr ⟨before, slot, behind, hslots, ?_, hoid, hne, Nat.lt_of_not_le hlt, ?_, rfl⟩
    · simpa [hne] using hbefore
    · simpa using hany

/-- If the slot of the module has room for the index, making an interface is to make the object, to
number it and to attach it. -/
theorem attachInterface_eq {kind : InterfaceKind} {s : Simulator} {before behind : List Slot}
    {slot : Slot} (hslots : s.slots = before ++ slot :: behind)
    (hbefore : ∀ b ∈ before, b.oid ≠ slot.oid) (hoid : slot.oid ≠ 0) {index : Nat}
    (hroom : index < slot.capacity kind) (hnew : ∀ i ∈ slot.interfaces kind, i.index ≠ index)
    (pairs : List (Text × Text)) :
    attachInterface kind slot.oid index pairs s =
      (spawn (.interface kind) (pairs.filter fun p => p.1 ≠ indexName) >>=
        fun new => do
          modify fun s => s.updateValues new (Values.set indexName (Numeral.decimal index))
          modify fun s => s.updateSlotOf slot.oid (Slot.attach · kind ⟨index, new⟩)
          return new) s := by
  have hfind : s.slots.find? (fun other => other.oid = slot.oid ∧ slot.oid ≠ 0) = some slot := by
    rw [hslots, List.find?_append, List.find?_eq_none.2 fun b hb => by simp [hbefore b hb]]
    simp [hoid]
  have hany : ((slot.interfaces kind).any fun i => i.index = index) = false := by
    simpa using hnew
  unfold attachInterface
  rw [run_bind_ok (run_get s)]
  simp only [hfind, if_neg (Nat.not_le.2 hroom), hany, Bool.false_eq_true, if_false]

/-- **Making an interface** fails and changes nothing, or attaches the new object to the slot of the
module, which has room for the index. -/
theorem attachInterface_cases (kind : InterfaceKind) (oid index : Nat) (pairs : List (Text × Text))
    (s : Simulator) :
    (∃ e, attachInterface kind oid index pairs s = (.error e, s)) ∨
    ∃ before slot behind s', attachInterface kind oid index pairs s = (.ok s.nextOid, s') ∧
      s.slots = before ++ slot :: behind ∧ slot.oid = oid ∧ oid ≠ 0 ∧
      index < slot.capacity kind ∧ (∀ i ∈ slot.interfaces kind, i.index ≠ index) ∧
      s'.slots = before ++ slot.attach kind ⟨index, s.nextOid⟩ :: behind ∧
      s'.directory = s.directory ++ [(s.nextOid, .interface kind)] ∧
      s'.nextOid = s.nextOid + 1 := by
  rcases attachInterface_spawn kind oid index pairs s with
    ⟨e, he⟩ | ⟨before, slot, behind, hslots, hother, hoid, hne, hlt, hnew, hrun⟩
  · exact Or.inl ⟨e, he⟩
  rw [hrun]
  generalize pairs.filter _ = own
  rcases spawn_cases (.interface kind) own s with
    ⟨e, he⟩ | ⟨s₁, hspawn, hslots₁, hdirectory₁, hnext₁⟩
  · exact Or.inl ⟨e, run_bind_error he _⟩
  rw [run_bind_ok hspawn]
  refine Or.inr ⟨before, slot, behind, _, rfl, hslots, hoid, hne, hlt, hnew, ?_,
    by simpa using hdirectory₁, by simpa using hnext₁⟩
  exact slots_updateSlotOf _ (hslots₁.trans hslots) hother hoid

/-! ## Where objects are created -/

/-- An interface is created with the index that the first pair for it gives. -/
theorem create_interface_eq {kind : InterfaceKind} {pairs : List (Text × Text)} {index : Nat}
    (hkey : (pairs.lookup indexName).bind Numeral.read32? = some index) (moduleOid : Nat)
    (s : Simulator) :
    create (.interface kind) pairs moduleOid s = attachInterface kind moduleOid index pairs s := by
  simp only [create, hkey]

/-- Creating a module is making one in the slot that the first location names, which has hardware
and no module, or it is refused. -/
theorem create_module_cases (pairs : List (Text × Text)) (moduleOid : Nat) (s : Simulator) :
    (∃ e, create .module pairs moduleOid s = (.error e, s)) ∨
    ∃ before slot behind, s.slots = before ++ slot :: behind ∧
      (∀ b ∈ before, b.location ≠ slot.location) ∧ slot.oid = 0 ∧ slot.present = true ∧
      pairs.lookup locationName = some slot.location ∧
      create .module pairs moduleOid s = createModule slot pairs s := by
  unfold create
  cases pairs.lookup locationName with
  | none => exact Or.inl ⟨_, rfl⟩
  | some location =>
    dsimp only
    rw [run_bind_ok (run_get s)]
    cases hfind : s.slots.find? fun slot => slot.location = location with
    | none => exact Or.inl ⟨_, rfl⟩
    | some slot =>
      obtain ⟨before, behind, hslots, hbefore, hslot⟩ := exists_of_find? hfind
      obtain rfl : slot.location = location := of_decide_eq_true hslot
      dsimp only
      split
      · exact Or.inl ⟨_, rfl⟩
      rename_i hpresent
      split
      · exact Or.inl ⟨_, rfl⟩
      rename_i hoid
      exact Or.inr ⟨before, slot, behind, hslots, fun b hb => of_decide_eq_false (hbefore b hb),
        by simpa using hoid, by simpa using hpresent, rfl, rfl⟩

/-- In a slot with hardware and no module a module can be made. -/
theorem create_module_eq {s : Simulator} {before behind : List Slot} {slot : Slot}
    (hslots : s.slots = before ++ slot :: behind)
    (hbefore : ∀ b ∈ before, b.location ≠ slot.location) (hoid : slot.oid = 0)
    (hpresent : slot.present = true) {pairs : List (Text × Text)}
    (hkey : pairs.lookup locationName = some slot.location) (moduleOid : Nat) :
    create .module pairs moduleOid s = createModule slot pairs s := by
  have hfind : s.slots.find? (fun other => other.location = slot.location) = some slot := by
    rw [hslots, List.find?_append, List.find?_eq_none.2 fun b hb => by simp [hbefore b hb]]
    simp
  unfold create
  simp only [hkey]
  rw [run_bind_ok (run_get s)]
  simp only [hfind, hpresent, hoid]
  rfl

/-! ## What creating and removing keep -/

/-- Make all interfaces that a module has room for. -/
def attachSides (slot : Slot) (oid : Nat) : Request Simulator Nat := do
  attachAll .network oid (List.range slot.netifCapacity)
  attachAll .host oid (List.range slot.hostifCapacity)
  return oid

/-- What is left to do for a module that has been made: its values, its slot and its interfaces. -/
def furnish (slot : Slot) (oid : Nat) : Request Simulator Nat := do
  modify fun s => s.updateValues oid fun values => Values.setAll values [
    (locationName, slot.location),
    (netifCountName, Numeral.decimal slot.netifCapacity),
    (hostifCountName, Numeral.decimal slot.hostifCapacity)]
  modify fun s => s.updateSlotAt slot.location ({ · with oid := oid })
  attachSides slot oid

theorem createModule_eq (slot : Slot) (pairs : List (Text × Text)) :
    createModule slot pairs =
      spawn .module (pairs.filter fun p => p.1 ≠ locationName) >>= furnish slot := rfl

section Keeps

variable {R : Simulator → Simulator → Prop} [IsPreorder Simulator R]

theorem attachAll_keeps {kind : InterfaceKind} {oid : Nat}
    (hattach : ∀ index, Keeps R (attachInterface kind oid index [])) (indices : List Nat) :
    Keeps R (attachAll kind oid indices) := by
  induction indices with
  | nil => exact Keeps.pure ()
  | cons index rest ih => exact (hattach index).bind fun _ => ih

theorem attachSides_keeps {oid : Nat}
    (hattach : ∀ kind index, Keeps R (attachInterface kind oid index [])) (slot : Slot) :
    Keeps R (attachSides slot oid) :=
  (attachAll_keeps (hattach .network) _).bind fun _ =>
    (attachAll_keeps (hattach .host) _).bind fun _ => Keeps.pure _

theorem furnish_keeps {oid : Nat} (hvalues : ∀ s f, R s (s.updateValues oid f))
    (hslot : ∀ s location g, R s (s.updateSlotAt location g))
    (hattach : ∀ kind index, Keeps R (attachInterface kind oid index [])) (slot : Slot) :
    Keeps R (furnish slot oid) :=
  (Keeps.modify fun s => hvalues s _).bind fun _ =>
    (Keeps.modify fun s => hslot s _ _).bind fun _ => attachSides_keeps hattach slot

theorem createModule_keeps (hspawn : ∀ pairs, Keeps R (spawn .module pairs))
    (hfurnish : ∀ slot oid, Keeps R (furnish slot oid)) (slot : Slot)
    (pairs : List (Text × Text)) : Keeps R (createModule slot pairs) :=
  (hspawn _).bind fun oid => hfurnish slot oid

/-- **What making a module or an interface keeps, creating keeps**, granted or refused. -/
theorem create_keeps (hmodule : ∀ slot pairs, Keeps R (createModule slot pairs))
    (hattach : ∀ kind oid index pairs, Keeps R (attachInterface kind oid index pairs))
    (type : ObjectType) (pairs : List (Text × Text)) (oid : Nat) :
    Keeps R (create type pairs oid) := by
  unfold create
  cases type with
  | interface kind =>
    dsimp only
    split
    · exact Keeps.throw _
    · exact hattach kind oid _ pairs
  | module =>
    dsimp only
    split
    · exact Keeps.throw _
    refine Keeps.get.bind fun s => ?_
    split
    · exact Keeps.throw _
    split
    · exact Keeps.throw _
    split
    · exact Keeps.throw _
    exact hmodule _ pairs

/-- What changing the slots and letting go of an object keeps, removing keeps, granted or
refused. -/
theorem remove_keeps (oid : Nat) (hslots : ∀ (s : Simulator) slots, R s { s with slots := slots })
    (hobjects : ∀ s : Simulator, R s { s with objects := s.objects.filter fun p => p.1 ≠ oid }) :
    Keeps R (remove oid) := by
  have hmodify (f : Simulator → List Slot) : Keeps R
      (modify fun s : Simulator => { s with slots := f s } : Request Simulator PUnit) :=
    Keeps.modify fun s => hslots s (f s)
  have hlet : Keeps R (modify fun s : Simulator =>
      { s with objects := s.objects.filter fun p => p.1 ≠ oid } : Request Simulator PUnit) :=
    Keeps.modify hobjects
  refine Keeps.get.bind fun s => ?_
  split
  · exact Keeps.throw _
  split
  · refine Keeps.get.bind fun s => ?_
    split
    · exact hlet
    · split
      · exact Keeps.throw _
      · exact (hmodify _).bind fun _ => hlet
  · exact (hmodify _).bind fun _ => hlet

end Keeps

/-! ## What stays -/

/-- A sound state stays sound, with the same slots as far as `view` shows them. -/
def Evolves (view : Slot → Slot) (s s' : Simulator) : Prop :=
  s.Sound → s'.Sound ∧ s'.slots.map view = s.slots.map view

instance (view : Slot → Slot) : IsPreorder Simulator (Evolves view) where
  refl _ h := ⟨h, rfl⟩
  trans _ _ _ h₁ h₂ h := by
    obtain ⟨hsound₁, hview₁⟩ := h₁ h
    obtain ⟨hsound₂, hview₂⟩ := h₂ hsound₁
    exact ⟨hsound₂, hview₂.trans hview₁⟩

theorem attachInterface_evolves (kind : InterfaceKind) (oid index : Nat)
    (pairs : List (Text × Text)) :
    Keeps (Evolves Slot.bare) (attachInterface kind oid index pairs) := by
  intro s h
  rcases attachInterface_cases kind oid index pairs s with
    ⟨e, he⟩ | ⟨before, slot, behind, s', hs', hslots, rfl, hoid, hlt, hnew, hslots', hdir, hnext⟩
  · rw [he]
    exact ⟨h, rfl⟩
  · rw [hs']
    exact ⟨h.attach hslots hoid hlt hnew hslots' hdir hnext, by simp [hslots, hslots']⟩

/-- **Making a module** in a slot with hardware and without a module. It fails and changes nothing,
or there is a new module, with the interfaces that could be made. -/
theorem createModule_cases {s : Simulator} (h : s.Sound) {before behind : List Slot} {slot : Slot}
    (hslots : s.slots = before ++ slot :: behind)
    (hbefore : ∀ b ∈ before, b.location ≠ slot.location) (hpresent : slot.present = true)
    (hoid : slot.oid = 0) (as : Slot) (has : as.location = slot.location)
    (pairs : List (Text × Text)) :
    (createModule as pairs s).2 = s ∨
    ((createModule as pairs s).2.Sound ∧ (createModule as pairs s).2.slots.map Slot.bare =
      (before ++ { slot with oid := s.nextOid } :: behind).map Slot.bare) := by
  unfold createModule
  generalize pairs.filter _ = own
  rcases spawn_cases .module own s with ⟨e, he⟩ | ⟨s₁, hspawn, hslots₁, hdirectory₁, hnext₁⟩
  · exact Or.inl (by rw [run_bind_error he])
  rw [run_bind_ok hspawn, run_bind_ok (run_modify ..), run_bind_ok (run_modify ..)]
  -- the module alone, before its interfaces are made
  generalize hs₂ : ((s₁.updateValues _ _).updateSlotAt _ _) = s₂
  have hslots₂ : s₂.slots = before ++ { slot with oid := s.nextOid } :: behind := by
    rw [← hs₂, has]
    exact slots_updateSlotAt _ (hslots₁.trans hslots) hbefore
  have hsound₂ : s₂.Sound := by
    refine h.create hslots hoid hpresent hslots₂ ?_ ?_
    · simp [← hs₂, hdirectory₁]
    · simp [← hs₂, hnext₁]
  have hattach : Keeps (Evolves Slot.bare) (attachSides as s.nextOid) :=
    attachSides_keeps (fun kind index => attachInterface_evolves kind _ index []) as
  obtain ⟨hsound, hbare⟩ := hattach s₂ hsound₂
  exact Or.inr ⟨hsound, by rw [← hslots₂]; exact hbare⟩

/-- What keeps the modules keeps the hardware. -/
theorem Evolves.hardware {s s' : Simulator} (h : Evolves Slot.bare s s') :
    Evolves Slot.hardware s s' := fun hs =>
  ⟨(h hs).1, Slot.map_hardware_of_map_bare (h hs).2⟩

/-- Creating objects keeps the hardware. -/
theorem create_evolves (type : ObjectType) (pairs : List (Text × Text)) (oid : Nat) :
    Keeps (Evolves Slot.hardware) (create type pairs oid) := by
  cases type with
  | interface kind =>
    unfold create
    dsimp only
    split
    · exact Keeps.throw _
    · exact (attachInterface_evolves kind oid _ pairs).mono fun _ _ => Evolves.hardware
  | module =>
    intro s h
    rcases create_module_cases pairs oid s with
      ⟨e, he⟩ | ⟨before, slot, behind, hslots, hbefore, hoid, hpresent, -, hmodule⟩
    · rw [he]
      exact ⟨h, rfl⟩
    rw [hmodule]
    rcases createModule_cases h hslots hbefore hpresent hoid slot rfl pairs with
      hsame | ⟨hsound, hbare⟩
    · rw [hsame]
      exact ⟨h, rfl⟩
    · exact ⟨hsound, by simpa [hslots] using Slot.map_hardware_of_map_bare hbare⟩

/-- The slots after the object of an id has been removed: an interface is detached wherever it is
listed, and a module, which has no interfaces, is taken out of its slot. -/
inductive Releases (s : Simulator) (oid : Nat) : List Slot → Prop
  | interface {kind : InterfaceKind} (hlive : (oid, .interface kind) ∈ s.directory) :
    Releases s oid (s.slots.map (Slot.detach · oid))
  | module {before behind : List Slot} {slot : Slot} (hlive : (oid, .module) ∈ s.directory)
    (hslots : s.slots = before ++ slot :: behind) (hoid : slot.oid = oid)
    (hempty : ∀ kind, slot.interfaces kind = []) :
    Releases s oid (before ++ { slot with oid := 0 } :: behind)

/-- Removing is refused, or it releases a live object and lets go of it. -/
theorem remove_releases {s : Simulator} (h : s.Sound) (oid : Nat) :
    (∃ e, remove oid s = (.error e, s)) ∨
    ∃ slots, Releases s oid slots ∧ (s.object? oid).isSome ∧ remove oid s =
      (.ok (), { s with slots := slots, objects := s.objects.filter fun p => p.1 ≠ oid }) := by
  unfold remove
  rw [run_bind_ok (run_get s)]
  cases hobject : s.object? oid with
  | none => exact Or.inl ⟨_, rfl⟩
  | some object =>
    have hlive := mem_directory_of_object? hobject
    dsimp only
    cases htype : object.type with
    | interface kind =>
      rw [htype] at hlive
      exact Or.inr ⟨_, .interface hlive, rfl, rfl⟩
    | module =>
      rw [htype] at hlive
      dsimp only
      rw [run_bind_ok (run_get s)]
      cases hfind : s.slots.find? fun slot => slot.oid = oid with
      | none =>
        obtain ⟨slot, hslot, hoid⟩ := h.exists_slot hlive
        exact absurd hoid (by simpa using List.find?_eq_none.1 hfind slot hslot)
      | some slot =>
        obtain ⟨before, behind, hslots, hbefore, hslot⟩ := exists_of_find? hfind
        obtain rfl : slot.oid = oid := of_decide_eq_true hslot
        dsimp only
        split
        · exact Or.inl ⟨_, rfl⟩
        rename_i hnone
        have hother : ∀ b ∈ before, b.oid ≠ slot.oid := by simpa using hbefore
        have hslots' := slots_updateSlotOf ({ · with oid := 0 }) hslots hother rfl
        refine Or.inr ⟨_, .module hlive hslots rfl (Slot.interfaces_eq_nil hnone), rfl, ?_⟩
        rw [← hslots']
        rfl

/-- **Removing** fails and changes nothing, or takes a live object off both sides. -/
theorem remove_cases {s : Simulator} (h : s.Sound) (oid : Nat) :
    (∃ e, remove oid s = (.error e, s)) ∨
    ∃ s', remove oid s = (.ok (), s') ∧ (s.object? oid).isSome ∧ s'.Sound ∧
      s'.slots.map Slot.hardware = s.slots.map Slot.hardware ∧
      s'.objects = s.objects.filter fun p => p.1 ≠ oid := by
  rcases remove_releases h oid with he | ⟨slots, hreleases, hsome, hrun⟩
  · exact Or.inl he
  refine Or.inr ⟨_, hrun, hsome, ?_, ?_, rfl⟩
  · have hdirectory : ({ s with slots := slots, objects := s.objects.filter fun p => p.1 ≠ oid } :
        Simulator).directory = s.directory.filter fun p => p.1 ≠ oid := by
      simp only [directory, List.filter_map]
      rfl
    cases hreleases with
    | interface hlive => exact h.detach hlive rfl hdirectory rfl
    | module hlive hslots hoid hempty =>
      subst hoid
      exact h.vacate hslots (Nat.ne_of_gt (h.pos _ hlive)) hempty rfl hdirectory rfl
  · cases hreleases with
    | interface hlive => simp
    | module hlive hslots hoid hempty => simp [hslots]

/-- Taking one id off the live objects leaves the others as they are. -/
theorem object?_of_filter {s s' : Simulator} {oid : Nat}
    (h : s'.objects = s.objects.filter fun p => p.1 ≠ oid) (other : Nat) :
    s'.object? other = if other = oid then none else s.object? other := by
  rw [object?, object?, h, lookup_filter_ne]

theorem remove_evolves (oid : Nat) : Keeps (Evolves Slot.hardware) (remove oid) := by
  intro s h
  rcases remove_cases h oid with ⟨e, he⟩ | ⟨s', hs', -, hsound, hhardware, -⟩
  · rw [he]
    exact ⟨h, rfl⟩
  · rw [hs']
    exact ⟨hsound, hhardware⟩

/-- Writing an attribute is refused, or it sets the value and changes nothing else. -/
theorem writeAttribute_cases (handle : ObjectHandle) (name value : Text) (s : Simulator) :
    (∃ e, writeAttribute handle name value s = (.error e, s)) ∨
    writeAttribute handle name value s =
      (.ok (), s.updateValues handle.oid (Values.set name value)) := by
  unfold writeAttribute
  rw [run_bind_of_reads (liveObject_reads handle)]
  split
  · rw [run_bind_of_reads (declaration_reads handle.type name)]
    split
    · split
      · exact Or.inl ⟨_, rfl⟩
      · dsimp only
        rw [run_bind_of_reads (checkValue_reads handle.type name value)]
        split
        · exact Or.inr rfl
        · exact Or.inl ⟨_, rfl⟩
    · exact Or.inl ⟨_, rfl⟩
  · exact Or.inl ⟨_, rfl⟩

end TransponderShell.Simulator
